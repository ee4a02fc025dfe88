import CompileOrder.CommandLine.Sources
import CompileOrder.Proofs.Project.Merging

/-!
# Paths of the command line and the libraries they go to

Every path of the command line goes to one library, and giving a library a path is merging an
entry that holds just this path. So after any number of paths the libraries are those of the
base project, followed by those that were given a path first in their order, and each has its own
paths behind what it had. That a library is added on the way changes neither the target nor any
other library.
-/

namespace CompileOrder

open Text

/-- What stands before the first equals sign. -/
def libraryPart (text : String) : List Char := text.toList.takeWhile (· != '=')

/-- What stands after the first equals sign. -/
def pathPart (text : String) : List Char := (text.toList.dropWhile (· != '=')).tail

/-- The text names no library or gives it no path. -/
def IsMalformedPair (text : String) : Prop :=
  '=' ∉ text.toList ∨ (∀ c ∈ libraryPart text, isBlank c = true) ∨ pathPart text = []

/-- The library that a text names. -/
def pairLibrary (text : String) : String := upper (String.ofList (trim (libraryPart text)))

/-- The path that a text gives it. -/
def pairPath (text : String) : String := String.ofList (pathPart text)

@[simp] theorem upper_pairLibrary (text : String) : upper (pairLibrary text) = pairLibrary text :=
  upper_upper _

/-- Nothing is left after trimming blanks, and of nothing else. -/
theorem Text.trim_eq_nil_iff (cs : List Char) : trim cs = [] ↔ ∀ c ∈ cs, isBlank c = true := by
  constructor
  · intro h
    obtain ⟨before, after, hcs⟩ := exists_blanks_trim cs
    rw [h, List.append_nil] at hcs
    rw [hcs]
    exact List.forall_mem_append.mpr ⟨before.property, after.property⟩
  · intro h
    have htrim : trim (cs ++ [] ++ []) = [] := trim_append ⟨cs, h⟩ .none (by simp) (by simp)
    rwa [List.append_nil, List.append_nil] at htrim

/-- Without an equals sign there is no path. -/
theorem pathPart_eq_nil {text : String} (h : '=' ∉ text.toList) : pathPart text = [] := by
  have hall : text.toList.dropWhile (· != '=') = [] := by
    rw [List.dropWhile_eq_nil_iff]
    intro c hc
    exact bne_iff_ne.mpr fun heq => h (heq ▸ hc)
  rw [pathPart, hall, List.tail_nil]

theorem isMalformedPair_iff (text : String) :
    IsMalformedPair text ↔ trim (libraryPart text) = [] ∨ pathPart text = [] := by
  rw [IsMalformedPair, trim_eq_nil_iff]
  constructor
  · rintro (h | h)
    · exact Or.inr (pathPart_eq_nil h)
    · exact h
  · exact Or.inr

/-- A text is refused if it is malformed, and else names a library and gives it a path. -/
theorem libraryPath?_eq (text : String) :
    (IsMalformedPair text ∧ libraryPath? text = none) ∨
      (¬ IsMalformedPair text ∧
        libraryPath? text = some (String.ofList (trim (libraryPart text)), pairPath text)) := by
  rw [isMalformedPair_iff]
  by_cases h : trim (libraryPart text) = [] ∨ pathPart text = []
  · refine Or.inl ⟨h, if_pos ?_⟩
    simpa [libraryPart, pathPart] using h
  · refine Or.inr ⟨h, if_neg ?_⟩
    simpa [libraryPart, pathPart] using h

namespace Project

/-- The names of the libraries. -/
def names (p : Project) : List String := p.libraries.map (·.name)

/-- The library of this name, or an empty one. -/
def library (p : Project) (name : String) : Library :=
  (p.libraries.find? fun l => l.name == name).getD { name := name }

/-- The project in which the library of this name has more paths. -/
def give (p : Project) (gift : String × List String) : Project :=
  { p with libraries := mergeInto { name := gift.1, paths := gift.2 } p.libraries }

@[simp] theorem name_library (p : Project) (name : String) : (p.library name).name = name := by
  rw [library]
  cases hfound : p.libraries.find? fun l => l.name == name with
  | none => rfl
  | some l =>
    have hname := List.find?_some hfound
    exact beq_iff_eq.mp hname

/-- In a project of distinct libraries each is found under its name. -/
theorem library_name {p : Project} (h : p.names.Nodup) {l : Library} (hl : l ∈ p.libraries) :
    p.library l.name = l := by
  have hfound : p.libraries.find? (fun m => m.name == l.name) = some l := by
    obtain ⟨before, after, hsplit⟩ := List.append_of_mem hl
    rw [names, hsplit, List.map_append, List.map_cons, List.nodup_append] at h
    refine List.find?_eq_some_iff_append.mpr ⟨beq_self_eq_true _, before, after, hsplit, ?_⟩
    intro m hm
    have hne := h.2.2 m.name (List.mem_map_of_mem hm) l.name List.mem_cons_self
    simpa using hne
  rw [library, hfound, Option.getD_some]

/-- Adding paths to the library of a name is merging an entry with these paths. -/
theorem modifyFirst_addPaths (name : String) (paths : List String) (ls : List Library) :
    modifyFirst name (fun l => l.addPaths paths) ls =
      mergeInto { name := name, paths := paths } ls := by
  induction ls with
  | nil => rfl
  | cons l ls ih =>
    have hmerge : l.merge { name := name, paths := paths } = l.addPaths paths := by
      simp [Library.merge, Library.addPaths]
    rw [modifyFirst, mergeInto, ih, hmerge]

theorem modifyLibrary_addPaths (p : Project) {name : String} (h : upper name = name)
    (paths : List String) :
    p.modifyLibrary name (fun l => l.addPaths paths) = p.give (name, paths) := by
  rw [modifyLibrary, h, modifyFirst_addPaths, give]

/-- A well-formed text gives a path to the library it names. -/
theorem addLibraryPath_eq (p : Project) (text : String) :
    (IsMalformedPair text ∧ p.addLibraryPath text = .error (.malformedPair text)) ∨
      (¬ IsMalformedPair text ∧
        p.addLibraryPath text = .ok (p.give (pairLibrary text, [pairPath text]))) := by
  rcases libraryPath?_eq text with ⟨hpair, heq⟩ | ⟨hpair, heq⟩
  · exact Or.inl ⟨hpair, by rw [addLibraryPath, heq]⟩
  · refine Or.inr ⟨hpair, ?_⟩
    have hgive := p.modifyLibrary_addPaths (upper_pairLibrary text) [pairPath text]
    simp only [modifyLibrary, pairLibrary, upper_upper] at hgive
    simp only [addLibraryPath, heq, modifyLibrary, hgive, pairLibrary]

/-- The first malformed text is refused, and without one all paths are given. -/
theorem foldlM_addLibraryPath (texts : List String) (p : Project) :
    (∃ text ∈ texts, IsMalformedPair text ∧
        texts.foldlM addLibraryPath p = .error (.malformedPair text)) ∨
      (∀ text ∈ texts, ¬ IsMalformedPair text) ∧
        texts.foldlM addLibraryPath p =
          .ok ((texts.map fun text => (pairLibrary text, [pairPath text])).foldl give p) := by
  induction texts generalizing p with
  | nil => exact Or.inr ⟨List.forall_mem_nil _, rfl⟩
  | cons text texts ih =>
    rw [List.foldlM_cons]
    rcases p.addLibraryPath_eq text with ⟨hpair, heq⟩ | ⟨hpair, heq⟩
    · exact Or.inl ⟨text, List.mem_cons_self, hpair, by rw [heq]; rfl⟩
    · rw [heq]
      rcases ih (p.give (pairLibrary text, [pairPath text])) with
        ⟨text', hmem, hpair', hrun⟩ | ⟨hall, hrun⟩
      · exact Or.inl ⟨text', List.mem_cons_of_mem text hmem, hpair', hrun⟩
      · exact Or.inr ⟨List.forall_mem_cons.mpr ⟨hpair, hall⟩, hrun⟩

/-- The paths among some gifts that are given to one library. -/
def given (gifts : List (String × List String)) (name : String) : List String :=
  (gifts.filter fun gift => gift.1 == name).flatMap fun gift => gift.2

/-- The library of a name with the paths given to it. -/
def enriched (base : Project) (gifts : List (String × List String)) (name : String) : Library :=
  (base.library name).addPaths (given gifts name)

theorem given_append (gifts : List (String × List String)) (gift : String × List String)
    (name : String) :
    given (gifts ++ [gift]) name =
      given gifts name ++ if name = gift.1 then gift.2 else [] := by
  by_cases h : name = gift.1
  · simp [given, List.filter_append, h]
  · have hne : (gift.1 == name) = false := beq_eq_false_iff_ne.mpr fun heq => h heq.symm
    simp [given, List.filter_append, h, hne]

/-- The names of the libraries after some gifts: those of the base, and then every new one in
the order of first mention. -/
def namesAfter (base : Project) (mentioned : List String) : List String :=
  base.names ++ (mentioned.filter fun name => name ∉ base.names).eraseDups

theorem mem_namesAfter {base : Project} {mentioned : List String} {name : String} :
    name ∈ base.namesAfter mentioned ↔ name ∈ base.names ∨ name ∈ mentioned := by
  rw [namesAfter, List.mem_append, List.mem_eraseDups, List.mem_filter, decide_eq_true_eq]
  by_cases h : name ∈ base.names <;> simp [h]

theorem nodup_namesAfter {base : Project} (h : base.names.Nodup) (mentioned : List String) :
    (base.namesAfter mentioned).Nodup := by
  refine List.nodup_append.mpr ⟨h, nodup_eraseDups _, fun n hn m hm heq => ?_⟩
  have hnew := (List.mem_filter.mp (List.mem_eraseDups.mp hm)).2
  exact of_decide_eq_true hnew (heq ▸ hn)

/-- One more mention adds a name if that is new. -/
theorem namesAfter_append (base : Project) (mentioned : List String) (name : String) :
    base.namesAfter (mentioned ++ [name]) = base.namesAfter mentioned ++
      if name ∈ base.namesAfter mentioned then [] else [name] := by
  by_cases hbase : name ∈ base.names
  · simp [namesAfter, List.filter_append, hbase]
  · have hnew : name ∈ base.namesAfter mentioned ↔
        name ∈ mentioned.filter fun name => name ∉ base.names := by
      rw [mem_namesAfter, List.mem_filter, decide_eq_true_eq]
      exact ⟨fun h => ⟨h.resolve_left hbase, hbase⟩, fun h => Or.inr h.1⟩
    have hlast : [name].filter (fun name => name ∉ base.names) = [name] := by simp [hbase]
    simp only [hnew]
    rw [namesAfter, namesAfter, List.filter_append, hlast, eraseDups_concat, List.append_assoc]

@[simp] theorem name_enriched (base : Project) (gifts : List (String × List String))
    (name : String) : (base.enriched gifts name).name = name := base.name_library name

/-- Libraries are named as they are enriched. -/
theorem names_enriched (base : Project) (mentioned : List String)
    (gifts : List (String × List String)) :
    ((base.namesAfter mentioned).map (base.enriched gifts)).map (·.name) =
      base.namesAfter mentioned := by
  rw [List.map_map]
  exact List.map_id'' (base.name_enriched gifts) _

/-- Of a name that neither the base nor a gift mentions there is nothing. -/
theorem enriched_of_notMem {base : Project} {gifts : List (String × List String)} {name : String}
    (h : name ∉ base.namesAfter (gifts.map Prod.fst)) :
    base.enriched gifts name = { name := name } := by
  rw [mem_namesAfter, not_or] at h
  have hlibrary : base.library name = { name := name } := by
    have hnone : base.libraries.find? (fun l => l.name == name) = none := by
      rw [List.find?_eq_none]
      exact fun l hl heq => h.1 (List.mem_map.mpr ⟨l, hl, beq_iff_eq.mp heq⟩)
    rw [library, hnone, Option.getD_none]
  have hgiven : (gifts.filter fun gift => gift.1 == name) = [] := by
    rw [List.filter_eq_nil_iff]
    exact fun gift hgift heq => h.2 (List.mem_map.mpr ⟨gift, hgift, beq_iff_eq.mp heq⟩)
  simp [enriched, given, hlibrary, hgiven, Library.addPaths]

/-- One more gift goes to its library. -/
theorem mergeInto_enriched {base : Project} (hdistinct : base.names.Nodup)
    (gifts : List (String × List String)) (gift : String × List String) :
    mergeInto { name := gift.1, paths := gift.2 }
        ((base.namesAfter (gifts.map Prod.fst)).map (base.enriched gifts)) =
      (base.namesAfter ((gifts ++ [gift]).map Prod.fst)).map (base.enriched (gifts ++ [gift])) := by
  have hlast : ∀ n, base.enriched (gifts ++ [gift]) n =
      if n = gift.1 then (base.enriched gifts n).addPaths gift.2 else base.enriched gifts n := by
    intro n
    rw [enriched, enriched, given_append]
    by_cases h : n = gift.1 <;> simp [h, Library.addPaths]
  rw [List.map_append, List.map_singleton, namesAfter_append, List.map_append]
  by_cases hmem : gift.1 ∈ base.namesAfter (gifts.map Prod.fst)
  · rw [if_pos hmem, List.map_nil, List.append_nil,
      Library.mergeInto_map_of_mem (nodup_namesAfter hdistinct _)
        (base.name_enriched gifts) hmem]
    refine List.map_congr_left fun n _ => ?_
    rw [hlast]
    simp [Library.merge, Library.addPaths]
  · have hnew : gift.1 ∉ ((base.namesAfter (gifts.map Prod.fst)).map
        (base.enriched gifts)).map (·.name) := by
      rwa [names_enriched]
    have hold : (base.namesAfter (gifts.map Prod.fst)).map (base.enriched gifts) =
        (base.namesAfter (gifts.map Prod.fst)).map (base.enriched (gifts ++ [gift])) := by
      refine List.map_congr_left fun n hn => ?_
      have hne : n ≠ gift.1 := fun heq => hmem (heq ▸ hn)
      rw [hlast, if_neg hne]
    rw [if_neg hmem, Library.mergeInto_of_notMem hnew, hold, List.map_singleton, hlast, if_pos rfl,
      enriched_of_notMem hmem]
    rfl

/-- After some gifts each library has the paths given to it, and nothing else has changed. -/
theorem foldl_give {base : Project} (hdistinct : base.names.Nodup)
    (gifts : List (String × List String)) :
    gifts.foldl give base =
      { base with
        libraries := (base.namesAfter (gifts.map Prod.fst)).map (base.enriched gifts) } := by
  induction gifts using List.reverseRecOn with
  | nil =>
    have hnames : base.namesAfter [] = base.names := by simp [namesAfter]
    have hsame : ∀ l ∈ base.libraries, base.enriched [] l.name = l := by
      intro l hl
      simp [enriched, given, library_name hdistinct hl, Library.addPaths]
    have hlibraries : base.names.map (base.enriched []) = base.libraries := by
      rw [names, List.map_map]
      exact (List.map_congr_left hsame).trans (List.map_id' _)
    rw [List.map_nil, hnames, hlibraries]
    rfl
  | append_singleton gifts gift ih =>
    rw [List.foldl_append, List.foldl_cons, List.foldl_nil, ih, give,
      mergeInto_enriched hdistinct]

end Project

namespace SourceOptions

/-- The libraries that are mentioned with a path, each as often as that happens: the target if
there are paths without a library, then the library of each text. -/
def mentioned (o : SourceOptions) (base : Project) : List String :=
  (if o.paths.isEmpty then [] else [o.target base]) ++ o.libraryPaths.map pairLibrary

/-- The paths that texts of the form `LIB=PATH` give to one library. -/
def pairPaths (o : SourceOptions) (name : String) : List String :=
  (o.libraryPaths.filter fun text => pairLibrary text == name).map pairPath

/-- What is given to libraries one after the other. -/
def gifts (o : SourceOptions) (base : Project) : List (String × List String) :=
  (if o.paths.isEmpty then [] else [(o.target base, o.paths)]) ++
    o.libraryPaths.map fun text => (pairLibrary text, [pairPath text])

theorem map_fst_gifts (o : SourceOptions) (base : Project) :
    (o.gifts base).map Prod.fst = o.mentioned base := by
  rw [gifts, mentioned, List.map_append, List.map_map]
  cases o.paths.isEmpty <;> rfl

/-- The target is given the paths without a library, and then each library its own. -/
theorem given_gifts (o : SourceOptions) (base : Project) (name : String) :
    Project.given (o.gifts base) name =
      (if name = o.target base then o.paths else []) ++ o.pairPaths name := by
  have hpairs : Project.given (o.libraryPaths.map fun text => (pairLibrary text, [pairPath text]))
      name = o.pairPaths name := by
    rw [Project.given, pairPaths, List.filter_map, List.flatMap_map, ← List.map_eq_flatMap]
    rfl
  have htarget : Project.given (if o.paths.isEmpty then [] else [(o.target base, o.paths)]) name =
      if name = o.target base then o.paths else [] := by
    by_cases hpaths : o.paths = []
    · simp [Project.given, hpaths]
    · by_cases hname : name = o.target base
      · simp [Project.given, hpaths, hname]
      · simp [Project.given, hpaths, hname, Ne.symm hname]
  rw [← hpairs, ← htarget, Project.given, gifts, List.filter_append, List.flatMap_append]
  rfl

/-- The name of the target is in upper case if those of the base are. -/
theorem upper_target (o : SourceOptions) {base : Project}
    (h : ∀ name ∈ base.names, upper name = name) : upper (o.target base) = o.target base := by
  rw [target]
  cases o.library with
  | some name => exact upper_upper name
  | none =>
    cases hlibraries : base.libraries with
    | nil =>
      rw [Project.defaultLibrary, hlibraries]
      decide
    | cons l ls =>
      have hfirst : l.name ∈ base.names := by simp [Project.names, hlibraries]
      simpa [Project.defaultLibrary, hlibraries] using h l.name hfirst

/-- All paths are given to their libraries, unless a text is malformed. -/
theorem addTo_eq (o : SourceOptions) {base : Project}
    (hupper : ∀ name ∈ base.names, upper name = name) :
    (∃ text ∈ o.libraryPaths, IsMalformedPair text ∧
        o.addTo base = .error (.malformedPair text)) ∨
      (∀ text ∈ o.libraryPaths, ¬ IsMalformedPair text) ∧
        o.addTo base = .ok ((o.gifts base).foldl Project.give base) := by
  have hfirst : o.addPathsTo base =
      (if o.paths.isEmpty then [] else [(o.target base, o.paths)]).foldl Project.give base := by
    rw [addPathsTo, base.modifyLibrary_addPaths (o.upper_target hupper)]
    cases o.paths.isEmpty <;> rfl
  rw [gifts, List.foldl_append, ← hfirst]
  exact Project.foldlM_addLibraryPath o.libraryPaths (o.addPathsTo base)

end SourceOptions

/-- Paths of the command line reach their libraries and change nothing else. Adding them to a
base project with distinct names in upper case fails exactly if some text is not of the form
`LIB=PATH`. Otherwise the libraries are still distinct, those of the base come first and in their
order, and then the new ones in the order of first mention; and each library has the paths of the
base, the paths without a library if it is the target, and the paths given to it by name, in this
order, and is otherwise as in the base. -/
theorem paths_routed {base : Project} (hdistinct : base.names.Nodup)
    (hupper : ∀ name ∈ base.names, upper name = name) (o : SourceOptions) :
    ((∃ failure, o.addTo base = .error failure) ↔
        ∃ text ∈ o.libraryPaths, IsMalformedPair text) ∧
      (∀ p, o.addTo base = .ok p →
        p.names.Nodup ∧
        p.names = base.names ++
          ((o.mentioned base).filter fun name => name ∉ base.names).eraseDups ∧
        (∀ l ∈ p.libraries, l =
          { base.library l.name with
            paths := (base.library l.name).paths ++
              (if l.name = o.target base then o.paths else []) ++ o.pairPaths l.name }) ∧
        p.rules = base.rules ∧ p.output = base.output) ∧
      ∀ load t, o.base load t = .ok base →
        o.project load t = (o.addTo base).map fun p => (p, o.target base) := by
  refine ⟨?_, fun p hp => ?_, fun load t ht => ?_⟩
  · rcases o.addTo_eq hupper with ⟨text, htext, hpair, hrun⟩ | ⟨hall, hrun⟩
    · exact ⟨fun _ => ⟨text, htext, hpair⟩, fun _ => ⟨_, hrun⟩⟩
    · constructor
      · rintro ⟨failure, hfailure⟩
        cases hrun.symm.trans hfailure
      · rintro ⟨text, htext, hpair⟩
        exact absurd hpair (hall text htext)
  · rcases o.addTo_eq hupper with ⟨text, htext, hpair, hrun⟩ | ⟨hall, hrun⟩
    · cases hrun.symm.trans hp
    · obtain rfl := Except.ok.inj (hrun.symm.trans hp)
      have hnames := Project.names_enriched base (o.mentioned base) (o.gifts base)
      rw [Project.foldl_give hdistinct, o.map_fst_gifts]
      refine ⟨?_, hnames, fun l hl => ?_, rfl, rfl⟩
      · rw [Project.names, hnames]
        exact Project.nodup_namesAfter hdistinct _
      · obtain ⟨name, -, rfl⟩ := List.mem_map.mp hl
        rw [Project.name_enriched, Project.enriched, Library.addPaths, o.given_gifts,
          List.append_assoc]
  · have hproject : o.project load t = (o.addTo base >>= fun p => pure (p, o.target base)) := by
      rw [SourceOptions.project, ht]
      rfl
    rw [hproject]
    cases o.addTo base <;> rfl

namespace SourceOptions

/-- A base project of two libraries. -/
def twoLibraries : Project where
  libraries := [{ name := "UTIL", paths := ["u"], tops := ["top"] }, { name := "WORK" }]

/-- A tree with the configuration of the base project. -/
def configured : FileTree where
  root := .directory [(configFileName, .ofBytes (Text.encode
    ("[[library]]\nname = \"util\"\npaths = [\"u\"]\ntop = [\"top\"]\n" ++
      "[[library]]\nname = \"work\"\n")))]
    .ofDirectory
  workingDirectory := []

/-- Paths without a library, and paths of old and new libraries. -/
def mixedPaths : SourceOptions where
  paths := ["src"]
  libraryPaths := ["work=w", " New =n", "util=v=1", "NEW=m"]
  config := some configFileName

/-- The base project with these paths. -/
def mixedProject : Project where
  libraries := [{ name := "UTIL", paths := ["u", "src", "v=1"], tops := ["top"] },
    { name := "WORK", paths := ["w"] }, { name := "NEW", paths := ["n", "m"] }]

/-- The paths are given to the first library of the base, to the second, and to a new one that
two texts spell differently. -/
theorem mixed_paths_given :
    twoLibraries.names.Nodup ∧ (∀ name ∈ twoLibraries.names, upper name = name) ∧
      mixedPaths.base FileTree.loadProject configured = .ok twoLibraries ∧
      mixedPaths.addTo twoLibraries = .ok mixedProject ∧
      mixedPaths.project FileTree.loadProject configured = .ok (mixedProject, "UTIL") ∧
      mixedProject.names.Nodup := by
  have hdistinct : twoLibraries.names.Nodup := by decide
  have hupper : ∀ name ∈ twoLibraries.names, upper name = name := by decide
  have hbase : mixedPaths.base FileTree.loadProject configured = .ok twoLibraries := by
    decide +kernel
  have hadded : mixedPaths.addTo twoLibraries = .ok mixedProject := by decide +kernel
  obtain ⟨-, hrouted, hproject⟩ := paths_routed hdistinct hupper mixedPaths
  refine ⟨hdistinct, hupper, hbase, hadded, ?_, (hrouted mixedProject hadded).1⟩
  rw [hproject _ configured hbase, hadded]
  rfl

end SourceOptions

end CompileOrder
