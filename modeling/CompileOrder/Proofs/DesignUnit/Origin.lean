import CompileOrder.Proofs.DesignUnit.Feeding

/-!
# Where units come from

A unit is opened in the file that is read and in the library the file is read for, and
nothing that is done to it later changes either. So all units found in one reading of a file
belong to the library of that reading.
-/

namespace CompileOrder

/-- The unit stands in this file and belongs to this library. -/
structure DesignUnit.Of (u : DesignUnit) (file library : String) : Prop where
  /-- It stands in the file. -/
  file_eq : u.file = file
  /-- It belongs to the library. -/
  library_eq : u.library = library

namespace Extractor

variable {x : Extractor} {line : String} {o : OpenUnit}

/-- All units, the open one included, are of the file and the library that are read. -/
structure OwnUnits (x : Extractor) : Prop where
  /-- The units found are. -/
  units : ∀ u ∈ x.units, u.Of x.file x.library
  /-- The open unit is. -/
  current : ∀ o, x.current = some o → o.unit.Of x.file x.library

namespace OwnUnits

theorem start (file library : String) : OwnUnits (start file library) where
  units _ hu := absurd hu List.not_mem_nil
  current _ ho := nomatch ho

/-- The unit that a line goes to is of the file and the library that are read. -/
theorem receives (hx : OwnUnits x) (h : x.Receives line o) : o.unit.Of x.file x.library := by
  cases h with
  | continued hcurrent =>
    obtain ⟨hfile, hlibrary⟩ := hx.current _ hcurrent
    exact ⟨hfile, hlibrary⟩
  | opened _ =>
    constructor
    · simp only [opening, openUnit, DesignUnit.declare, implyUse, file_keeping]
    · simp only [opening, openUnit, DesignUnit.declare, implyUse, library_keeping]

/-- A line leaves the units where they are. -/
theorem feed (hx : OwnUnits x) (line : String) : OwnUnits (x.feed line) := by
  rcases feed_cases x line with ⟨o, ho, -, hcurrent, hunits⟩ | ⟨o, ho, -, hcurrent, hunits⟩ |
    ⟨-, hcurrent, hunits⟩
  · refine ⟨by simpa [hunits] using hx.units, fun o' ho' => ?_⟩
    obtain rfl : o = o' := Option.some.inj (hcurrent.symm.trans ho')
    simpa using hx.receives ho
  · obtain ⟨hfile, hlibrary⟩ := hx.receives ho
    refine ⟨fun u hu => ?_, fun o' ho' => nomatch hcurrent.symm.trans ho'⟩
    rw [file_feed, library_feed]
    rcases List.mem_append.mp (hunits ▸ hu) with hu | hu
    · exact hx.units u hu
    · rw [List.mem_singleton.mp hu]
      exact ⟨hfile, hlibrary⟩
  · exact ⟨by simpa [hunits] using hx.units, fun o ho => nomatch hcurrent.symm.trans ho⟩

theorem foldl_feed (hx : OwnUnits x) (lines : List String) :
    OwnUnits (lines.foldl Extractor.feed x) :=
  foldl_feed_of_feed (fun _ line h => h.feed line) hx lines

end OwnUnits

end Extractor

/-- The units found in a text are of the file and the library it is read for. -/
theorem of_mem_extract {text file library : String} {u : DesignUnit}
    (hu : u ∈ (extract text file library).units) : u.Of file (Text.upper library) := by
  have hown := (Extractor.OwnUnits.start file library).foldl_feed
    ((Text.lines text.toList).map String.ofList)
  have hunit := hown.units u hu
  rw [Extractor.file_foldl_feed, Extractor.library_foldl_feed] at hunit
  exact hunit

end CompileOrder
