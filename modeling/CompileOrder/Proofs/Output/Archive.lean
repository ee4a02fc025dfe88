import CompileOrder.Output
import CompileOrder.Proofs.FileTree.Changes
import CompileOrder.Proofs.Runs

/-!
# What an archive holds

The archive is opened, and so emptied, before the first source is read. It then grows source by
source, under all names of its file, while every other file stays as it was. So a source that
is the archive itself does not add what it held before: it adds what has been copied so far.
An archive of other files holds what these held before the run, one after another.
-/

namespace CompileOrder

namespace FileTree

/-- Whether two paths lead to the same file. -/
def leadTogether (t : FileTree) (path path' : String) : Bool :=
  match t.locate path, t.locate path' with
  | .ok place, .ok place' => t.sameFile place place'
  | _, _ => false

theorem leadTogether_of_locate {t : FileTree} {path path' : String} {place place' : List String}
    (h : t.locate path = .ok place) (h' : t.locate path' = .ok place') :
    t.leadTogether path path' = t.sameFile place place' := by
  rw [leadTogether, h, h']

/-- What can be read from where a path leads, if anything can. -/
def bytesAt (t : FileTree) (path : String) : Text.Bytes :=
  match t.read path with
  | .ok bytes => bytes
  | .error _ => []

theorem bytesAt_of_read {t : FileTree} {path : String} {bytes : Text.Bytes}
    (h : t.read path = .ok bytes) : t.bytesAt path = bytes := by
  rw [bytesAt, h]

end FileTree

namespace Output

open FileTree

variable {files : List SourceFile} {path : String} {w w' : World}

/-- Nothing but the tree changes when bytes are added to a file. -/
theorem extend_eq_ok {place : List String} {bytes : Text.Bytes} {u : Unit} :
    (extend path place bytes).run.run w = (.ok u, w') ↔
      ∃ t, w.tree.append place bytes = .ok t ∧ w' = { w with tree := t } := by
  rw [extend, Run.bind_eq_ok]
  constructor
  · rintro ⟨t, between, hquery, hchange⟩
    obtain ⟨ht, rfl⟩ := Run.query_eq_ok.mp hquery
    exact ⟨t, mapError_eq_ok.mp ht, Run.changeTree_eq_ok.mp hchange⟩
  · rintro ⟨t, ht, hw⟩
    exact ⟨t, w, Run.query_eq_ok.mpr ⟨mapError_eq_ok.mpr ht, rfl⟩, Run.changeTree_eq_ok.mpr hw⟩

/-- What a source holds when its turn comes is added to the archive. -/
theorem archiveFile_eq_ok {place : List String} {f : SourceFile} {u : Unit} :
    (archiveFile path place f).run.run w = (.ok u, w') ↔
      ∃ bytes t, w.tree.read f.name = .ok bytes ∧ w.tree.append place bytes = .ok t ∧
        w' = { w with tree := t } := by
  rw [archiveFile, Run.bind_eq_ok]
  constructor
  · rintro ⟨bytes, between, hquery, hextend⟩
    obtain ⟨hread, rfl⟩ := Run.query_eq_ok.mp hquery
    obtain ⟨t, happend, hw⟩ := extend_eq_ok.mp hextend
    exact ⟨bytes, t, mapError_eq_ok.mp hread, happend, hw⟩
  · rintro ⟨bytes, t, hread, happend, hw⟩
    exact ⟨bytes, w, Run.query_eq_ok.mpr ⟨mapError_eq_ok.mpr hread, rfl⟩,
      extend_eq_ok.mpr ⟨t, happend, hw⟩⟩

/-- The directory of an output file is there afterwards, and no other thing has changed. -/
theorem addsDirectories_makeDirectory {u : Unit}
    (h : (makeDirectory path).run.run w = (.ok u, w')) : AddsDirectories w.tree w'.tree := by
  rw [makeDirectory] at h
  split at h
  · obtain ⟨t, between, hquery, hchange⟩ := Run.bind_eq_ok.mp h
    obtain ⟨ht, rfl⟩ := Run.query_eq_ok.mp hquery
    obtain rfl := Run.changeTree_eq_ok.mp hchange
    exact addsDirectories_ensureDirectory (mapError_eq_ok.mp ht)
  · obtain ⟨-, rfl⟩ := Run.pure_eq_ok.mp h
    exact .refl w'.tree

/-- An output file is created once its directory is there. -/
theorem exists_of_openFile {place : List String}
    (h : (openFile path).run.run w = (.ok place, w')) :
    ∃ t, AddsDirectories w.tree t ∧ t.create path = .ok (w'.tree, place) := by
  rw [openFile] at h
  obtain ⟨u, made, hmake, hopen⟩ := Run.bind_eq_ok.mp h
  obtain ⟨⟨t, there⟩, between, hquery, hrest⟩ := Run.bind_eq_ok.mp hopen
  obtain ⟨hcreate, rfl⟩ := Run.query_eq_ok.mp hquery
  obtain ⟨u', changed, hchange, hplace⟩ := Run.bind_eq_ok.mp hrest
  obtain rfl := Run.changeTree_eq_ok.mp hchange
  obtain ⟨rfl, rfl⟩ := Run.pure_eq_ok.mp hplace
  exact ⟨between.tree, addsDirectories_makeDirectory hmake, mapError_eq_ok.mp hcreate⟩

/-- Between opening an archive and its end no node changes its kind. -/
theorem sameKinds_of_archiveFiles {place : List String} {face : Face} {u : Unit}
    (hnumbered : w.tree.Numbered) (hplace : w.tree.seen place = some face)
    (h : (files.forM (archiveFile path place)).run.run w = (.ok u, w')) :
    SameKinds w.tree w'.tree := by
  induction files generalizing w face with
  | nil =>
    obtain ⟨-, rfl⟩ := Run.pure_eq_ok.mp h
    exact .refl w'.tree
  | cons f files ih =>
    obtain ⟨u', between, hfile, hrest⟩ := Run.bind_eq_ok.mp h
    obtain ⟨bytes, t, -, happend, rfl⟩ := archiveFile_eq_ok.mp hfile
    have hkinds : SameKinds w.tree t := sameKinds_append hnumbered hplace happend
    obtain ⟨face', hplace', -⟩ :=
      Option.map_eq_some_iff.mp (hkinds.toExtends.kind place face hplace)
    exact hkinds.trans (ih (hkinds.numbered hnumbered) hplace' hrest)

/-- What the archive has after one more source: the bytes that this held before the run are
added, or, if it is the archive, all that has been copied so far. -/
def copyNext (before after : FileTree) (path : String) (copied : Text.Bytes) (f : SourceFile) :
    Text.Bytes :=
  copied ++ if after.leadTogether f.name path then copied else before.bytesAt f.name

/-- What holds while an archive is written: it has what was copied under all of its names, and
whatever else stood in the tree before the run is as it was. -/
structure Copied (before : FileTree) (place : List String) (k : Nat) (copied : Text.Bytes)
    (t : FileTree) : Prop where
  /-- Every node of the tree before the run keeps its kind. -/
  toExtends : Extends before t
  /-- The names of a file stand for nodes of one kind. -/
  numbered : t.Numbered
  /-- The archive has what was copied. -/
  archive : ∀ p, t.sameFile place p = true → t.seen p = some (.file copied k)
  /-- All else is as it was. -/
  other : ∀ p face, t.sameFile place p = false → before.seen p = some face →
    t.seen p = some face

namespace Copied

variable {before t t' after : FileTree} {place : List String} {k : Nat}
  {copied bytes : Text.Bytes}

theorem place_seen (h : Copied before place k copied t) :
    t.seen place = some (.file copied k) := h.archive place (sameFile_iff.mpr (Or.inl rfl))

/-- An archive that has been opened has nothing yet. -/
theorem of_opens {opened : FileTree} (hadds : AddsDirectories before t)
    (hopens : Opens path place t opened) (hplace : opened.seen place = some (.file bytes k)) :
    Copied before place k [] opened where
  toExtends := hadds.toExtends.trans hopens.toExtends
  numbered := hopens.numbered
  archive p hp := by rw [hopens.seen bytes k hplace, if_pos hp]
  other p face hp hface := by
    rw [hopens.seen bytes k hplace, if_neg (by simp [hp])]
    exact hadds.of_some hface

/-- Bytes that are added have been copied. -/
theorem append (h : Copied before place k copied t) (happend : t.append place bytes = .ok t') :
    Copied before place k (copied ++ bytes) t' := by
  have hkinds : SameKinds t t' := sameKinds_append h.numbered h.place_seen happend
  refine ⟨h.toExtends.trans hkinds.toExtends, hkinds.numbered h.numbered, ?_, ?_⟩
  · intro p hp
    rw [hkinds.sameFile] at hp
    rw [seen_append_file h.place_seen happend, if_pos hp]
  · intro p face hp hface
    rw [hkinds.sameFile] at hp
    rw [seen_append_file h.place_seen happend, if_neg (by simp [hp])]
    exact h.other p face hp hface

/-- What is read from a path that does not lead to the archive was there before the run. -/
theorem read_of_before (h : Copied before place k copied t) {other : String}
    (hother : before.read other = .ok bytes) (hpath : t.locate path = .ok place)
    (hapart : t.leadTogether other path = false) : t.read other = .ok bytes := by
  obtain ⟨p, face, hp, hface, hread⟩ := read_eq_ok.mp hother
  have hp' := h.toExtends.locate hp
  rw [leadTogether_of_locate hp' hpath, sameFile_comm] at hapart
  exact read_eq_ok.mpr ⟨p, face, hp', h.other p face hapart hface, hread⟩

/-- What is read from a source when its turn comes is what it held before the run, or what has
been copied so far. -/
theorem read (h : Copied before place k copied t) {f : SourceFile} (hkinds : SameKinds t after)
    (hpath : after.locate path = .ok place)
    (hthere : before.holds f.name = true ∨ after.leadTogether f.name path = true)
    (hread : t.read f.name = .ok bytes) :
    copied ++ bytes = copyNext before after path copied f := by
  obtain ⟨p, face, hp, hface, hbytes⟩ := read_eq_ok.mp hread
  have hlead : after.leadTogether f.name path = t.sameFile place p := by
    rw [leadTogether_of_locate (hkinds.toExtends.locate hp) hpath, hkinds.sameFile, sameFile_comm]
  rw [copyNext, hlead]
  cases hsame : t.sameFile place p with
  | true =>
    obtain rfl := Option.some.inj (hface.symm.trans (h.archive p hsame))
    obtain rfl := Except.ok.inj hbytes
    rfl
  | false =>
    have hholds : before.holds f.name = true := hthere.resolve_right (by simp [hlead, hsame])
    obtain ⟨q, n, hq, hn⟩ := holds_iff.mp hholds
    obtain rfl := Except.ok.inj ((h.toExtends.locate hq).symm.trans hp)
    obtain rfl := Option.some.inj (hface.symm.trans (h.other q n hsame hn))
    rw [bytesAt_of_read (read_eq_ok.mpr ⟨q, face, hq, hn, hbytes⟩)]
    rfl

/-- Source by source the archive grows by what each of them adds. -/
theorem archiveFiles {u : Unit} (h : Copied before place k copied w.tree)
    (hpath : w'.tree.locate path = .ok place)
    (hthere : ∀ f ∈ files,
      before.holds f.name = true ∨ w'.tree.leadTogether f.name path = true)
    (hrun : (files.forM (archiveFile path place)).run.run w = (.ok u, w')) :
    Copied before place k (files.foldl (copyNext before w'.tree path) copied) w'.tree := by
  induction files generalizing w copied with
  | nil =>
    obtain ⟨-, rfl⟩ := Run.pure_eq_ok.mp hrun
    exact h
  | cons f files ih =>
    have hkinds := sameKinds_of_archiveFiles h.numbered h.place_seen hrun
    obtain ⟨u', between, hfile, hrest⟩ := Run.bind_eq_ok.mp hrun
    obtain ⟨bytes, t, hread, happend, rfl⟩ := archiveFile_eq_ok.mp hfile
    have hnext := h.append happend
    rw [h.read hkinds hpath (hthere f List.mem_cons_self) hread] at hnext
    exact ih hnext (fun g hg => hthere g (List.mem_cons_of_mem f hg)) hrest

end Copied

/-- The bytes that some sources leave in an archive. -/
def archived (before after : FileTree) (path : String) (files : List SourceFile) : Text.Bytes :=
  files.foldl (copyNext before after path) []

/-- Sources that are not the archive are in it one after another. -/
theorem archived_of_apart {before after : FileTree}
    (h : ∀ f ∈ files, after.leadTogether f.name path = false) :
    archived before after path files = files.flatMap fun f => before.bytesAt f.name := by
  have hfoldl : ∀ copied, files.foldl (copyNext before after path) copied =
      copied ++ files.flatMap fun f => before.bytesAt f.name := by
    induction files with
    | nil => simp
    | cons f files ih =>
      intro copied
      rw [List.foldl_cons, ih fun g hg => h g (List.mem_cons_of_mem f hg), copyNext,
        h f List.mem_cons_self]
      simp
  exact hfoldl []

/-- When sources have been copied into a file, this holds what they held before the run, one
after another, except that a source which is this file adds a copy of what the sources before
it left there. What any other path led to can be read as before. -/
theorem read_of_writeArchive (hrun : (writeArchive files path).run.run w = (.ok (), w'))
    (hnumbered : w.tree.Numbered) (hfile : w'.tree.isFile path = true)
    (hthere : ∀ f ∈ files,
      w.tree.holds f.name = true ∨ w'.tree.leadTogether f.name path = true) :
    w'.tree.read path = .ok (archived w.tree w'.tree path files) ∧
      ((∀ f ∈ files, w'.tree.leadTogether f.name path = false) →
        w'.tree.read path = .ok (files.flatMap fun f => w.tree.bytesAt f.name)) ∧
      ∀ other bytes, w.tree.read other = .ok bytes →
        w'.tree.leadTogether other path = false → w'.tree.read other = .ok bytes := by
  obtain ⟨place, opened, hopen, hcopy⟩ := Run.bind_eq_ok.mp hrun
  obtain ⟨t, hadds, hcreate⟩ := exists_of_openFile hopen
  have hopens := opens_create (hadds.numbered hnumbered) hcreate
  obtain ⟨face, hface⟩ := hopens.there
  have hkinds := sameKinds_of_archiveFiles hopens.numbered hface hcopy
  obtain ⟨p, bytes, k, hpath, hseen⟩ := isFile_iff.mp hfile
  obtain rfl := hopens.leads _ hkinds.toExtends p hpath
  obtain ⟨old, hold⟩ : ∃ old, opened.tree.seen p = some (.file old k) := by
    have hkind := hkinds.kind p
    rw [hseen, hface] at hkind
    obtain ⟨old, rfl⟩ := Face.exists_file_of_kind (Option.some.inj hkind).symm
    exact ⟨old, hface⟩
  have hcopied := (Copied.of_opens hadds hopens hold).archiveFiles hpath hthere hcopy
  have hread : w'.tree.read path = .ok (archived w.tree w'.tree path files) :=
    read_eq_ok.mpr ⟨p, _, hpath, hcopied.place_seen, rfl⟩
  refine ⟨hread, fun hapart => ?_, fun other bytes hother hapart => ?_⟩
  · rw [hread, archived_of_apart hapart]
  · exact hcopied.read_of_before hother hpath hapart

namespace Archive

/-- A working directory with a package and the archive of an earlier run. -/
def start : World where
  tree :=
    { root := .directory [("a.vhd", .ofBytes (Text.encode "package a is\nend a;\n")),
        ("all.vhd", .ofBytes (Text.encode "package old is\nend old;\n"))] .ofDirectory
      workingDirectory := [] }
  written := []

/-- The file with the package. -/
def package : SourceFile := ⟨"a.vhd", "WORK", ["a"], [], [], [], 0⟩

/-- The archive of the earlier run, picked up as a source. -/
def earlier : SourceFile := ⟨"all.vhd", "WORK", ["old"], [], [], [], 0⟩

/-- The world after the package and the earlier archive were copied into one file. -/
def after (path : String) : World := ((writeArchive [package, earlier] path).run.run start).2

/-- Both are copied into a new file, and are still there. -/
theorem copied_to_new_file :
    ((writeArchive [package, earlier] "out/new.vhd").run.run start).1 = .ok () ∧
      (after "out/new.vhd").tree.read "out/new.vhd" =
        .ok (Text.encode "package a is\nend a;\npackage old is\nend old;\n") ∧
      (after "out/new.vhd").tree.read "all.vhd" =
        .ok (Text.encode "package old is\nend old;\n") := by
  have hrun : ((writeArchive [package, earlier] "out/new.vhd").run.run start).1 = .ok () := by
    decide +kernel
  have hresult : (writeArchive [package, earlier] "out/new.vhd").run.run start =
      (.ok (), after "out/new.vhd") := by
    rw [after, ← hrun]
    exact (Prod.eta _).symm
  have hnumbers : start.tree.root.lastIdentity = 0 := by decide +kernel
  have hfile : (after "out/new.vhd").tree.isFile "out/new.vhd" = true := by decide +kernel
  have hthere : ∀ f ∈ [package, earlier], start.tree.holds f.name = true ∨
      (after "out/new.vhd").tree.leadTogether f.name "out/new.vhd" = true := by decide +kernel
  have hapart : ∀ f ∈ [package, earlier],
      (after "out/new.vhd").tree.leadTogether f.name "out/new.vhd" = false := by decide +kernel
  have hbytes : ([package, earlier].flatMap fun f => start.tree.bytesAt f.name) =
      Text.encode "package a is\nend a;\npackage old is\nend old;\n" := by decide +kernel
  have hearlier : start.tree.read "all.vhd" =
      .ok (Text.encode "package old is\nend old;\n") := by decide +kernel
  obtain ⟨-, hcopied, hkept⟩ :=
    read_of_writeArchive hresult (numbered_of_lastIdentity hnumbers) hfile hthere
  exact ⟨hrun, (hcopied hapart).trans (congrArg Except.ok hbytes),
    hkept _ _ hearlier (hapart earlier (by simp))⟩

/-- The earlier archive is lost when it is also the new one: the package is there twice. -/
theorem lost_in_itself :
    ((writeArchive [package, earlier] "all.vhd").run.run start).1 = .ok () ∧
      start.tree.read "a.vhd" = .ok (Text.encode "package a is\nend a;\n") ∧
      start.tree.read "all.vhd" = .ok (Text.encode "package old is\nend old;\n") ∧
      (after "all.vhd").tree.read "all.vhd" =
        .ok (Text.encode "package a is\nend a;\npackage a is\nend a;\n") ∧
      (after "all.vhd").tree.read "all.vhd" ≠
        .ok ([package, earlier].flatMap fun f => start.tree.bytesAt f.name) := by
  decide +kernel

end Archive

end Output

end CompileOrder
