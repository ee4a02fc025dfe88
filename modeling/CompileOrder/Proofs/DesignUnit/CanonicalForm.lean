import CompileOrder.Proofs.DesignUnit.Origin
import CompileOrder.Proofs.DesignUnit.Visibility
import CompileOrder.Proofs.Instance.Shapes
import CompileOrder.Proofs.Text.Case
import Mathlib.Data.Option.Basic

/-!
# The canonical form of units

Units are compared by their names, so every name in a unit has to be in one form. A name is
the upper-case text of a token wherever it is read: in a clause, in a header, or in front of an
instance. A library is resolved before it is kept, so `WORK` is left only where it is the
unit's own. And what an architecture or a package body belongs to is among what it uses.
-/

namespace CompileOrder

open Text

/-- The text has no small letter of ASCII. -/
def Text.IsUpper (s : String) : Prop := ∀ c ∈ s.toList, c.isLower = false

theorem Text.isUpper_upper (s : String) : IsUpper (upper s) := by
  intro c hc
  rw [toList_upper] at hc
  obtain ⟨d, -, rfl⟩ := List.mem_map.mp hc
  exact isLower_toUpper d

/-- The name of a token is in upper case. -/
theorem Token.isUpper_name (t : Token) : IsUpper t.name := isUpper_upper t.text

/-- A resolved library is in upper case if both libraries are. -/
theorem isUpper_resolveWork {own library : String} (hown : IsUpper own) (h : IsUpper library) :
    IsUpper (resolveWork own library) := by
  rw [resolveWork]
  split
  · exact hown
  · exact h

/-- Library and name are in upper case. -/
structure UseClause.Upper (c : UseClause) : Prop where
  /-- The library is. -/
  library : IsUpper c.library
  /-- The name is, if there is one. -/
  name : ∀ n, c.name = some n → IsUpper n

/-- All names of the clause are in upper case. -/
structure Clause.Upper (c : Clause) : Prop where
  /-- Those of a library clause are. -/
  libraryNames : ∀ l ∈ c.libraryNames, IsUpper l
  /-- Those of a use clause are. -/
  useClauses : ∀ u ∈ c.useClauses, u.Upper

namespace Clause

theorem isUpper_of_libraryName? {item : List Token} {n : String}
    (h : libraryName? item = some n) : IsUpper n := by
  match item with
  | [] | _ :: _ :: _ => cases h
  | [t] =>
    rw [libraryName?] at h
    split at h
    · cases h
      exact t.isUpper_name
    · cases h

theorem upper_of_selectedName? {item : List Token} {u : UseClause}
    (h : selectedName? item = some u) : u.Upper := by
  match item with
  | [] | [_] | [_, _] | [_, _, _, _] | _ :: _ :: _ :: _ :: _ :: _ :: _ => cases h
  | [lib, dot, suffix] =>
    rw [selectedName?] at h
    split at h
    · cases h
      refine ⟨lib.isUpper_name, fun n hn => ?_⟩
      split at hn
      · cases hn
        exact suffix.isUpper_name
      · cases hn
    · cases h
  | [lib, dot, unit, dot', suffix] =>
    rw [selectedName?] at h
    split at h
    · cases h
      exact ⟨lib.isUpper_name, fun n hn => Option.some.inj hn ▸ unit.isUpper_name⟩
    · cases h

/-- What is read item by item is read from the items. -/
theorem exists_of_mem_mapM {α β : Type} {f : α → Option β} {xs : List α} {ys : List β}
    (h : xs.mapM f = some ys) : ∀ y ∈ ys, ∃ x ∈ xs, f x = some y := by
  induction xs generalizing ys with
  | nil =>
    cases h
    exact List.forall_mem_nil _
  | cons x xs ih =>
    rw [List.mapM_cons] at h
    obtain ⟨y, hy, h⟩ := Option.bind_eq_some_iff.mp h
    obtain ⟨ys', hys, h⟩ := Option.bind_eq_some_iff.mp h
    cases h
    intro z hz
    rcases List.mem_cons.mp hz with rfl | hz
    · exact ⟨x, List.mem_cons_self, hy⟩
    · obtain ⟨x', hx', hfx⟩ := ih hys z hz
      exact ⟨x', List.mem_cons_of_mem x hx', hfx⟩

theorem upper_of_read? {word : Token} {rest : List Token} {c : Clause} {taken : Nat}
    (h : read? word rest = some (c, taken)) : c.Upper := by
  rw [read?] at h
  obtain ⟨⟨items, n⟩, -, h⟩ := Option.bind_eq_some_iff.mp h
  dsimp only at h
  split at h
  · obtain ⟨names, hnames, h⟩ := Option.bind_eq_some_iff.mp h
    cases h
    refine ⟨fun l hl => ?_, fun u hu => absurd hu List.not_mem_nil⟩
    obtain ⟨item, -, hitem⟩ := exists_of_mem_mapM hnames l hl
    exact isUpper_of_libraryName? hitem
  · split at h
    · obtain ⟨clauses, hclauses, h⟩ := Option.bind_eq_some_iff.mp h
      cases h
      refine ⟨fun l hl => absurd hl List.not_mem_nil, fun u hu => ?_⟩
      obtain ⟨item, -, hitem⟩ := exists_of_mem_mapM hclauses u hu
      exact upper_of_selectedName? hitem
    · cases h

theorem upper_of_mem_readAll (skip : Nat) (ts : List Token) :
    ∀ c ∈ (readAll skip ts).1, c.Upper := by
  induction ts generalizing skip with
  | nil => cases skip <;> exact List.forall_mem_nil _
  | cons t ts ih =>
    cases skip with
    | succ skip => exact ih skip
    | zero =>
      rw [readAll]
      cases hread : read? t ts with
      | none => exact List.forall_mem_nil _
      | some found => exact List.forall_mem_cons.mpr ⟨upper_of_read? hread, ih found.2⟩

end Clause

/-- The names of the header are in upper case, and an architecture has no instances yet. -/
structure Header.Upper (h : Header) : Prop where
  /-- The name of the unit is. -/
  name : IsUpper h.name
  /-- The name of an architecture is, and it comes without instances. -/
  architecture : ∀ a is, h.kind = .architecture a is → IsUpper a ∧ is = []

namespace Header

variable {ts : List Token} {h : Header}

theorem upper_of_entity? (hread : entity? ts = some h) : h.Upper := by
  rw [entity?.eq_def] at hread
  split at hread
  · rename_i word name is rest
    split at hread
    · cases hread
      exact ⟨name.isUpper_name, fun _ _ hkind => nomatch hkind⟩
    · cases hread
  · cases hread

theorem upper_of_architecture? (hread : architecture? ts = some h) : h.Upper := by
  rw [architecture?.eq_def] at hread
  split at hread
  · rename_i word arch of entity is rest
    split at hread
    · cases hread
      refine ⟨entity.isUpper_name, fun a is hkind => ?_⟩
      cases hkind
      exact ⟨arch.isUpper_name, rfl⟩
    · cases hread
  · cases hread

theorem upper_of_package? (hread : package? ts = some h) : h.Upper := by
  rw [package?.eq_def] at hread
  split at hread
  · rename_i word name is rest
    split at hread
    · cases hread
      exact ⟨name.isUpper_name, fun _ _ hkind => nomatch hkind⟩
    · cases hread
  · cases hread

theorem upper_of_packageBody? (hread : packageBody? ts = some h) : h.Upper := by
  rw [packageBody?.eq_def] at hread
  split at hread
  · rename_i word body name is rest
    split at hread
    · cases hread
      exact ⟨name.isUpper_name, fun _ _ hkind => nomatch hkind⟩
    · cases hread
  · cases hread

theorem upper_of_read? (hread : read? ts = some h) : h.Upper := by
  rcases (Option.orElse_eq_some _ _ _).mp hread with hentity | ⟨-, hread⟩
  · exact upper_of_entity? hentity
  rcases (Option.orElse_eq_some _ _ _).mp hread with harchitecture | ⟨-, hread⟩
  · exact upper_of_architecture? harchitecture
  rcases (Option.orElse_eq_some _ _ _).mp hread with hpackage | ⟨-, hbody⟩
  · exact upper_of_package? hpackage
  · exact upper_of_packageBody? hbody

end Header

/-- The names of the instance are in upper case. -/
structure Instance.Upper (i : Instance) : Prop where
  /-- The label is. -/
  label : IsUpper i.label
  /-- The library is, if there is one. -/
  library : ∀ l, i.library = some l → IsUpper l
  /-- The entity or component is. -/
  name : IsUpper i.target.name
  /-- The architecture is, if there is one. -/
  architecture : ∀ a, i.target.architecture = some a → IsUpper a

namespace Shape

variable {s : Shape} {ts : List Token} {i : Instance}

theorem isUpper_of_nameOf {p : Part} {n : String} (h : s.nameOf p ts = some n) : IsUpper n := by
  obtain ⟨⟨_, t⟩, -, rfl⟩ := Option.map_eq_some_iff.mp h
  exact t.isUpper_name

theorem upper_of_build (h : s.build ts = some i) : i.Upper := by
  rw [build] at h
  obtain ⟨label, hlabel, h⟩ := Option.bind_eq_some_iff.mp h
  obtain ⟨name, hname, h⟩ := Option.bind_eq_some_iff.mp h
  cases h
  refine ⟨isUpper_of_nameOf hlabel, fun l hl => isUpper_of_nameOf hl, ?_, ?_⟩
  · split <;> exact isUpper_of_nameOf hname
  · intro a ha
    split at ha
    · exact isUpper_of_nameOf ha
    · cases ha

end Shape

theorem Instance.upper_of_mem_mine {ts : List Token} : ∀ i ∈ mine ts, i.Upper := fun _ hi =>
  let ⟨_, _, _, hbuild, _⟩ := exists_header_of_mem_mine hi
  Shape.upper_of_build hbuild

/-- In a unit of the library `own`, the library is in upper case and resolved. -/
structure Resolved (own library : String) : Prop where
  /-- It is in upper case. -/
  upper : IsUpper library
  /-- It is `WORK` only if that is the unit's own library. -/
  own_of_eq : library = workLibrary → own = workLibrary

/-- A library in upper case is resolved by the unit's own. -/
theorem resolved_resolveWork {own library : String} (hown : IsUpper own) (h : IsUpper library) :
    Resolved own (resolveWork own library) :=
  ⟨isUpper_resolveWork hown h, eq_work_of_resolveWork⟩

/-- The unit has all its names in one form: in upper case and with `WORK` resolved. -/
structure DesignUnit.Canonical (u : DesignUnit) : Prop where
  /-- The library it belongs to is in upper case. -/
  library : IsUpper u.library
  /-- So is its name. -/
  name : IsUpper u.name
  /-- So is the name of an architecture. -/
  architecture : ∀ a, u.architecture? = some a → IsUpper a
  /-- The libraries of its library clauses are resolved. -/
  libraries : ∀ l ∈ u.libraries, Resolved u.library l
  /-- None of them stands twice. -/
  libraries_nodup : u.libraries.Nodup
  /-- The libraries of its use clauses are resolved. -/
  use_libraries : ∀ l ∈ u.uses.libraries, Resolved u.library l
  /-- The names of its use clauses are in upper case. -/
  use_names : ∀ p ∈ u.uses.pairs, IsUpper p.2
  /-- The names of its instances are in upper case. -/
  instances : ∀ i ∈ u.instances, i.Upper
  /-- The libraries of its instances are resolved. -/
  instance_libraries : ∀ i ∈ u.instances, ∀ l, i.library = some l → Resolved u.library l
  /-- An architecture or a package body uses the entity or package it belongs to. -/
  own_use : u.isArchitecture = true ∨ u.kind = .packageBody → (u.library, u.name) ∈ u.uses.pairs

/-- The instance stays in upper case when its library is resolved. -/
theorem Instance.Upper.resolveInstance {own : String} {i : Instance} (hown : IsUpper own)
    (h : i.Upper) : (OpenUnit.resolveInstance own i).Upper where
  label := h.label
  library l hl := by
    obtain ⟨l', hl', rfl⟩ := Option.map_eq_some_iff.mp hl
    exact isUpper_resolveWork hown (h.library l' hl')
  name := h.name
  architecture := h.architecture

namespace DesignUnit

/-- Only architectures have a name of their own. -/
theorem exists_kind_of_architecture? {u : DesignUnit} {a : String}
    (h : u.architecture? = some a) : ∃ is, u.kind = .architecture a is := by
  rw [architecture?] at h
  split at h
  · rename_i a' is hkind
    cases h
    exact ⟨is, hkind⟩
  · cases h

/-- A unit with another last line is in one form as well. -/
theorem Canonical.withEndLine {u : DesignUnit} (h : u.Canonical) (line : Nat) :
    { u with endLine := line }.Canonical where
  __ := h

/-- A unit declared by a header is in one form if everything it is made from is in upper case,
and the header of an architecture or a package body has its own name used. -/
theorem canonical_declare {h : Header} {library file : String} {line : Nat}
    {libraries : List String} {clauses : List UseClause} (hheader : h.Upper)
    (hlibrary : IsUpper library) (hlibraries : ∀ l ∈ libraries, IsUpper l)
    (hclauses : ∀ c ∈ clauses, c.Upper)
    (hown : (∃ a is, h.kind = .architecture a is) ∨ h.kind = .packageBody →
      ⟨library, some h.name⟩ ∈ clauses) :
    (declare h.kind h.name library file line libraries clauses).Canonical := by
  have huses := UseTable.lists_ofClauses library clauses
  have hinstances : (declare h.kind h.name library file line libraries clauses).instances = [] := by
    cases hkind : h.kind with
    | architecture a is => exact (hheader.architecture a is hkind).2
    | entity | package | packageBody => rfl
  refine ⟨hlibrary, hheader.name, fun a ha => ?_, fun l hl => ?_, Text.nodup_eraseDups _,
    fun l hl => ?_, fun p hp => ?_, ?_, ?_, fun hkind => ?_⟩
  · obtain ⟨is, hkind⟩ := exists_kind_of_architecture? ha
    exact (hheader.architecture a is hkind).1
  · obtain ⟨l', hl', rfl⟩ := List.mem_map.mp (List.mem_eraseDups.mp hl)
    exact resolved_resolveWork hlibrary (hlibraries l' hl')
  · obtain ⟨c, hc, rfl⟩ := (huses.mem_libraries l).mp hl
    exact resolved_resolveWork hlibrary (hclauses c hc).library
  · obtain ⟨c, hc, -, hname⟩ := (huses.mem_pairs p.1 p.2).mp hp
    exact (hclauses c hc).name p.2 hname
  · exact hinstances ▸ List.forall_mem_nil _
  · exact hinstances ▸ List.forall_mem_nil _
  · have hmem := hown (hkind.imp_left fun harch =>
      let ⟨a, ha⟩ := Option.isSome_iff_exists.mp harch
      ⟨a, exists_kind_of_architecture? ha⟩)
    exact (huses.mem_pairs library h.name).mpr ⟨_, hmem, resolveWork_self library, rfl⟩

end DesignUnit

namespace OpenUnit

variable (o : OpenUnit) (line : Nat)

@[simp] theorem architecture?_close : (o.close line).architecture? = o.unit.architecture? := by
  simp only [close, DesignUnit.architecture?]
  cases o.unit.kind <;> rfl

theorem kind_close_eq_packageBody :
    (o.close line).kind = .packageBody ↔ o.unit.kind = .packageBody := by
  rw [close]
  cases o.unit.kind <;> simp

/-- The instances of a closed unit are read from its tokens. -/
theorem exists_of_mem_instances_close {i : Instance} (hi : i ∈ (o.close line).instances) :
    ∃ j ∈ Instance.mine o.tokens, resolveInstance o.unit.library j = i := by
  rw [close, DesignUnit.instances] at hi
  cases hkind : o.unit.kind with
  | architecture a is =>
    rw [hkind] at hi
    exact List.mem_map.mp hi
  | entity | package | packageBody =>
    rw [hkind] at hi
    cases hi

/-- A closed unit is in one form if it was so when it was open. -/
theorem canonical_close (h : o.unit.Canonical) : (o.close line).Canonical := by
  refine ⟨h.library, h.name, fun a ha => h.architecture a (o.architecture?_close line ▸ ha),
    h.libraries, h.libraries_nodup, h.use_libraries, h.use_names, fun i hi => ?_,
    fun i hi l hl => ?_, fun hkind => ?_⟩
  · obtain ⟨j, hj, rfl⟩ := o.exists_of_mem_instances_close line hi
    exact (Instance.upper_of_mem_mine j hj).resolveInstance h.library
  · obtain ⟨j, hj, rfl⟩ := o.exists_of_mem_instances_close line hi
    obtain ⟨l', hl', rfl⟩ := Option.map_eq_some_iff.mp hl
    exact resolved_resolveWork h.library ((Instance.upper_of_mem_mine j hj).library l' hl')
  · rw [DesignUnit.isArchitecture, architecture?_close, kind_close_eq_packageBody] at hkind
    exact h.own_use hkind

end OpenUnit

namespace Extractor

variable {x : Extractor} {line : String} {o : OpenUnit}

/-- Pending names and all units are in one form, the open unit included. -/
structure Canonical (x : Extractor) : Prop where
  /-- The library that is read for is in upper case. -/
  library : IsUpper x.library
  /-- So are the pending libraries. -/
  libraries : ∀ l ∈ x.libraries, IsUpper l
  /-- So are the pending uses. -/
  clauses : ∀ c ∈ x.clauses, c.Upper
  /-- The units found are in one form. -/
  units : ∀ u ∈ x.units, u.Canonical
  /-- So is the open unit. -/
  current : ∀ o, x.current = some o → o.unit.Canonical

/-- What an architecture or a package body belongs to is an implied use of its header. -/
theorem mem_impliedUse (x : Extractor) {h : Header}
    (hkind : (∃ a is, h.kind = .architecture a is) ∨ h.kind = .packageBody) :
    ⟨x.library, some h.name⟩ ∈ x.impliedUse h := by
  rw [impliedUse]
  rcases hkind with ⟨a, is, hkind⟩ | hkind <;> rw [hkind] <;> exact List.mem_singleton_self _

theorem upper_of_mem_impliedUse {h : Header} (hlibrary : IsUpper x.library) (hh : h.Upper) :
    ∀ c ∈ x.impliedUse h, c.Upper := by
  intro c hc
  rw [impliedUse] at hc
  split at hc
  · rw [List.mem_singleton.mp hc]
    exact ⟨hlibrary, fun n hn => Option.some.inj hn ▸ hh.name⟩
  · rw [List.mem_singleton.mp hc]
    exact ⟨hlibrary, fun n hn => Option.some.inj hn ▸ hh.name⟩
  · cases hc
  · cases hc

namespace Canonical

theorem start (file library : String) : Canonical (start file library) where
  library := isUpper_upper library
  libraries _ hl := absurd hl List.not_mem_nil
  clauses _ hc := absurd hc List.not_mem_nil
  units _ hu := absurd hu List.not_mem_nil
  current _ ho := nomatch ho

/-- The clauses of a line are kept in upper case. -/
theorem keeping (hx : Canonical x) (line : String) : Canonical (x.keeping line) := by
  rw [Extractor.keeping, foldl_collect]
  have hread := Clause.upper_of_mem_readAll 0 (Lexer.tokenize line (x.lineCount + 1))
  refine { hx with libraries := fun l hl => ?_, clauses := fun c hc => ?_ }
  · rcases List.mem_append.mp hl with hl | hl
    · exact hx.libraries l hl
    · obtain ⟨c, hc, hl⟩ := List.mem_flatMap.mp hl
      exact (hread c hc).libraryNames l hl
  · rcases List.mem_append.mp hc with hc | hc
    · exact hx.clauses c hc
    · obtain ⟨c', hc', hc⟩ := List.mem_flatMap.mp hc
      exact (hread c' hc').useClauses c hc

theorem implyUse (hx : Canonical x) {h : Header} (hh : h.Upper) : Canonical (x.implyUse h) :=
  { hx with
    clauses := fun c hc => (List.mem_append.mp hc).elim (hx.clauses c)
      (upper_of_mem_impliedUse hx.library hh c) }

/-- The unit that a header opens is in one form. -/
theorem openUnit (hx : Canonical x) {h : Header} (hh : h.Upper) :
    ((x.implyUse h).openUnit h).unit.Canonical :=
  have hy := hx.implyUse hh
  DesignUnit.canonical_declare hh hy.library hy.libraries hy.clauses fun hkind =>
    List.mem_append_right _ (x.mem_impliedUse hkind)

/-- A unit in one form is settled in one form. -/
theorem settle (hx : Canonical x) (ho : o.unit.Canonical) : Canonical (x.settle o) := by
  rw [Extractor.settle]
  split
  · refine ⟨hx.library, List.forall_mem_nil _, List.forall_mem_nil _, fun u hu => ?_,
      fun o' ho' => ?_⟩
    · rcases List.mem_append.mp hu with hu | hu
      · exact hx.units u hu
      · rw [List.mem_singleton.mp hu]
        exact o.canonical_close x.lineCount ho
    · cases ho'
  · exact { hx with current := fun o' ho' => Option.some.inj ho' ▸ ho }

/-- A line leaves everything in one form. -/
theorem feed (hx : Canonical x) (line : String) : Canonical (x.feed line) := by
  rcases receives_or_idle x line with ⟨o, hreceives⟩ | ⟨-, hfeed⟩
  · cases hreceives with
    | continued hcurrent =>
      have hunit := hx.current _ hcurrent
      rw [feed_continued hcurrent]
      exact settle { hx with } hunit
    | opened hopens =>
      have hheader := Header.upper_of_read? hopens.header
      have hkeeping := hx.keeping line
      rw [feed_opens hopens]
      exact (hkeeping.implyUse hheader).settle (hkeeping.openUnit hheader)
  · exact hfeed ▸ hx.keeping line

theorem foldl_feed (hx : Canonical x) (lines : List String) :
    Canonical (lines.foldl Extractor.feed x) :=
  foldl_feed_of_feed (fun _ line h => h.feed line) hx lines

end Canonical

end Extractor

open Extractor

/-- Whatever text is read, each of its units, the last one even if it has no end, belongs to the
library in upper case and has all its names in one form. -/
theorem units_canonical (text file library : String) :
    (∀ u ∈ (extract text file library).units,
      u.library = upper library ∧ u.Canonical) ∧
    ∀ u, (extract text file library).unterminated = some u →
      u.library = upper library ∧ u.Canonical := by
  have hown := (OwnUnits.start file library).foldl_feed
    ((Text.lines text.toList).map String.ofList)
  have hcanonical := (Canonical.start file library).foldl_feed
    ((Text.lines text.toList).map String.ofList)
  have hlibrary := library_foldl_feed (Extractor.start file library)
    ((Text.lines text.toList).map String.ofList)
  refine ⟨fun u hu => ⟨(hown.units u hu).library_eq.trans hlibrary, hcanonical.units u hu⟩,
    fun u hu => ?_⟩
  obtain ⟨o, ho, rfl⟩ := Option.map_eq_some_iff.mp hu
  exact ⟨(hown.current o ho).library_eq.trans hlibrary, (hcanonical.current o ho).withEndLine _⟩

namespace SmallLetters

/-- An architecture in small letters, with an instance from the library `work`. -/
def text : String := "architecture a of e is\nu: entity work.b port map (x);\nend a;"

/-- The architecture as it is read for the library `lib`. -/
def unit : DesignUnit :=
  ⟨.architecture "A" [⟨"U", some "LIB", .entity "B" none⟩], "E", "LIB", "f", 1, 3, [],
    { entries := [("LIB", ["E"])] }⟩

/-- Its names are read in capital letters, and `work` as the library it is read for. -/
theorem unit_canonical :
    unit ∈ (extract text "f" "lib").units ∧ unit.library = upper "lib" ∧ unit.Canonical := by
  have hunit : unit ∈ (extract text "f" "lib").units := by decide +kernel
  exact ⟨hunit, (units_canonical text "f" "lib").1 unit hunit⟩

end SmallLetters

end CompileOrder
