import CompileOrder.FileTree.Sources
import CompileOrder.Proofs.FileTree.Resolution
import CompileOrder.Proofs.Path.Components

/-!
# Collecting source files

A walk of a tree without links meets every node that is no directory and that no hidden entry
leads to, each under the names that lead to it. As the entries of every directory are met in the
order of their names, these lists of names come in strictly increasing order, so no file is met
twice. Of the files, backup copies are left out; what a directory is called does not matter for
this.
-/

namespace CompileOrder

/-- A tree without links, in which the entries of a directory have distinct names that an entry
can have. -/
inductive IsLinkFree : Node → Prop
  /-- A directory. -/
  | directory {es : List (String × Node)} {a : Attributes}
    (distinct : (es.map fun e => e.1).Nodup) (named : ∀ e ∈ es, IsEntryName e.1)
    (below : ∀ e ∈ es, IsLinkFree e.2) : IsLinkFree (.directory es a)
  /-- Something that nothing stands below. -/
  | leaf {n : Node} (hdirectory : n.isDirectory = false) (hlink : n.isLink = false) : IsLinkFree n

/-- Where distinct entries have distinct names, an entry is found under its name. -/
theorem child?_eq_some_iff {es : List (String × Node)} (h : (es.map fun e => e.1).Nodup)
    {name : String} {n : Node} : child? name es = some n ↔ (name, n) ∈ es := by
  induction es with
  | nil => simp [child?]
  | cons e es ih =>
    obtain ⟨other, m⟩ := e
    obtain ⟨hnew, hrest⟩ := List.nodup_cons.mp h
    rw [Node.child?_cons, List.mem_cons]
    by_cases hname : other = name
    · subst hname
      have hnone : (other, n) ∉ es := fun hmem => hnew (List.mem_map.mpr ⟨_, hmem, rfl⟩)
      simp [hnone, eq_comm]
    · rw [if_neg hname, ih hrest]
      simp [Ne.symm hname]

namespace IsLinkFree

variable {root n : Node} {p : List String}

theorem get? (h : IsLinkFree root) (hn : root.get? p = some n) : IsLinkFree n := by
  induction p generalizing root with
  | nil =>
    rw [Node.get?_nil] at hn
    exact Option.some.inj hn ▸ h
  | cons name p ih =>
    obtain ⟨es, a, child, rfl, hchild, hn⟩ := Node.exists_directory_of_get?_cons hn
    cases h with
    | directory distinct _ below =>
      exact ih (below _ ((child?_eq_some_iff distinct).mp hchild)) hn
    | leaf hdirectory => cases hdirectory

theorem isLink_eq_false (h : IsLinkFree n) : n.isLink = false := by
  cases h with
  | directory => rfl
  | leaf _ hlink => exact hlink

/-- All names that lead somewhere are names of entries. -/
theorem isEntryName (h : IsLinkFree root) (hn : root.get? p = some n) :
    ∀ name ∈ p, IsEntryName name := by
  induction p generalizing root with
  | nil => exact List.forall_mem_nil _
  | cons name p ih =>
    obtain ⟨es, a, child, rfl, hchild, hn⟩ := Node.exists_directory_of_get?_cons hn
    cases h with
    | directory distinct named below =>
      have hmem := (child?_eq_some_iff distinct).mp hchild
      exact List.forall_mem_cons.mpr ⟨named _ hmem, ih (below _ hmem) hn⟩
    | leaf hdirectory => cases hdirectory

end IsLinkFree

/-- The names that lead to each node at and below a node that is no directory, past no hidden
entry, as a walk meets them. -/
def Node.ways : Node → List (List String)
  | .directory es _ => (searched es).attach.flatMap fun e => e.1.2.ways.map (e.1.1 :: ·)
  | _ => [[]]
termination_by n => sizeOf n
decreasing_by exact sizeOf_lt_of_mem_searched e.2 _

/-- Items of distinct names come in strictly increasing order. -/
theorem pairwise_byName {α : Type} {items : List (String × α)}
    (h : (items.map fun e => e.1).Nodup) : (byName items).Pairwise fun e f => e.1 < f.1 := by
  have hsorted : (byName items).Pairwise fun e f => (!Text.precedes f.1 e.1) = true := by
    refine List.pairwise_mergeSort ?_ ?_ items
    · intro d e f hde hef
      rw [Text.not_precedes_iff] at hde hef ⊢
      exact hde.trans hef
    · intro e f
      rw [Bool.or_eq_true, Text.not_precedes_iff, Text.not_precedes_iff]
      exact le_total e.1 f.1
  have hdistinct : (byName items).Pairwise fun e f => e.1 ≠ f.1 :=
    List.pairwise_map.mp (((List.mergeSort_perm items _).map _).nodup_iff.mpr h)
  refine hsorted.imp₂ (fun e f hle hne => ?_) hdistinct
  exact lt_of_le_of_ne ((Text.not_precedes_iff ..).mp hle) hne

/-- Items come in the only strictly increasing order that they have. -/
theorem byName_eq_of_perm {α : Type} {items ordered : List (String × α)}
    (hperm : ordered.Perm items) (h : ordered.Pairwise fun e f => e.1 < f.1) :
    byName items = ordered := by
  have hdistinct : (items.map fun e => e.1).Nodup :=
    (hperm.map _).nodup_iff.mp (List.pairwise_map.mpr (h.imp ne_of_lt))
  refine ((List.mergeSort_perm items _).trans hperm.symm).eq_of_pairwise ?_
    (pairwise_byName hdistinct) h
  exact fun e f _ _ hef hfe => absurd hfe hef.asymm

namespace Node

theorem ways_of_not_directory {n : Node} (h : n.isDirectory = false) : n.ways = [[]] := by
  cases n with
  | directory => cases h
  | _ => simp [ways]

theorem ways_directory (es : List (String × Node)) (a : Attributes) :
    (directory es a).ways = (searched es).flatMap fun e => e.2.ways.map (e.1 :: ·) := by
  rw [ways, List.flatMap_subtype (g := fun e => e.2.ways.map (e.1 :: ·)) fun _ _ => rfl,
    List.unattach_attach]

theorem sources_of_leaf {n : Node} (hdirectory : n.isDirectory = false) (hlink : n.isLink = false)
    (follow : String → Except Failure (List String)) (path : String) :
    n.sources follow path = .ok (if isBackup path then [] else [path]) := by
  cases n with
  | directory => cases hdirectory
  | link => cases hlink
  | _ => simp [sources]

/-- Without links the source files of a node are found by its ways, less the backup copies. -/
theorem sources_eq {n : Node} (h : IsLinkFree n) (follow : String → Except Failure (List String))
    (path : String) :
    n.sources follow path =
      .ok ((n.ways.map (Path.below path)).filter fun p => !isBackup p) := by
  induction h generalizing path with
  | leaf hdirectory hlink =>
    rw [sources_of_leaf hdirectory hlink, ways_of_not_directory hdirectory]
    cases hbackup : isBackup path <;> simp [Path.below, hbackup]
  | @directory es a _ _ _ ih =>
    have hfound := mapM_eq_ok fun e he =>
      ih e (mem_searched.mp he).1 (Path.join path e.1)
    have hbelow : ∀ (name : String) (ways : List (List String)),
        (ways.map (name :: ·)).map (Path.below path) =
          ways.map (Path.below (Path.join path name)) := by
      intro name ways
      rw [List.map_map]
      rfl
    rw [sources_directory, hfound, ways_directory, List.map_flatMap, List.filter_flatMap]
    simp only [hbelow]
    rfl

/-- A walk meets what is no directory and not behind a hidden entry. -/
theorem mem_ways_iff {n : Node} (h : IsLinkFree n) (names : List String) :
    names ∈ n.ways ↔
      (∃ m, n.get? names = some m ∧ m.isDirectory = false) ∧
        ∀ name ∈ names, isHidden name = false := by
  induction names generalizing n with
  | nil =>
    cases h with
    | leaf hdirectory => simp [ways_of_not_directory hdirectory, hdirectory]
    | directory => simp [ways_directory, isDirectory]
  | cons name names ih =>
    cases h with
    | leaf hdirectory =>
      have hface : n.face ≠ .directory := by
        cases n <;> simp_all [face, isDirectory]
      simp [ways_of_not_directory hdirectory, get?_cons_eq_none hface]
    | @directory es a distinct _ below =>
      have hentry : name :: names ∈ (directory es a).ways ↔
          ∃ child, (name, child) ∈ es ∧ isHidden name = false ∧ names ∈ child.ways := by
        simp [ways_directory, mem_searched, and_assoc, and_left_comm]
      have hget : ∀ child, (name, child) ∈ es →
          (directory es a).get? (name :: names) = child.get? names := by
        intro child hchild
        rw [get?, (child?_eq_some_iff distinct).mpr hchild, Option.bind_some]
      rw [hentry, List.forall_mem_cons]
      constructor
      · rintro ⟨child, hchild, hvisible, hnames⟩
        obtain ⟨hm, hrest⟩ := (ih (below _ hchild)).mp hnames
        exact ⟨(hget child hchild).symm ▸ hm, hvisible, hrest⟩
      · rintro ⟨⟨m, hm, hdirectory⟩, hvisible, hrest⟩
        obtain ⟨child, hchild, -⟩ := Option.bind_eq_some_iff.mp hm
        have hmem := (child?_eq_some_iff distinct).mp hchild
        rw [hget child hmem] at hm
        exact ⟨child, hmem, hvisible, (ih (below _ hmem)).mpr ⟨⟨m, hm, hdirectory⟩, hrest⟩⟩

/-- A walk meets the nodes in strictly increasing order of the names that lead to them. -/
theorem pairwise_ways {n : Node} (h : IsLinkFree n) : n.ways.Pairwise (· < ·) := by
  induction h with
  | leaf hdirectory =>
    rw [ways_of_not_directory hdirectory]
    exact List.pairwise_singleton _ _
  | @directory es a distinct _ _ ih =>
    rw [ways_directory, List.pairwise_flatMap]
    constructor
    · intro e he
      rw [List.pairwise_map]
      refine (ih e (mem_searched.mp he).1).imp fun hlt => ?_
      exact List.cons_lt_cons_iff.mpr (Or.inr ⟨rfl, hlt⟩)
    · refine (pairwise_byName ((List.filter_sublist.map _).nodup distinct)).imp ?_
      intro _ _ hlt p hp q hq
      obtain ⟨p', -, rfl⟩ := List.mem_map.mp hp
      obtain ⟨q', -, rfl⟩ := List.mem_map.mp hq
      exact List.cons_lt_cons_iff.mpr (Or.inl hlt)

end Node

namespace FileTree

variable {t : FileTree} {path : String} {place : List String}

/-- The last of the names that lead to a place is a step to it. -/
theorem Leads.exists_last_step {links : Nat} {start names : List String} {name : String}
    (h : Leads t links start names place) (hlinks : ∀ p target k, t.seen p ≠ some (.link target k))
    (hlast : names.getLast? = some name) : ∃ above, t.step above name = .ok place := by
  induction h with
  | here => cases hlast
  | @enter _ _ _ _ _ rest hstep _ hleads ih =>
    cases rest with
    | nil =>
      cases hleads
      obtain rfl := Option.some.inj hlast
      exact ⟨_, hstep⟩
    | cons next rest => exact ih hlast
  | jump _ hlink => exact absurd hlink (hlinks _ _ _)

/-- The directory above a directory, or itself at the root. -/
theorem seen_dropLast (h : t.seen place = some .directory) :
    t.seen place.dropLast = some .directory := by
  rcases List.eq_nil_or_concat place with rfl | ⟨above, last, rfl⟩
  · exact h
  · rw [List.concat_eq_append] at h ⊢
    obtain ⟨n, hn, -⟩ := Option.map_eq_some_iff.mp h
    rw [Node.get?_append] at hn
    obtain ⟨m, hm, hlast⟩ := Option.bind_eq_some_iff.mp hn
    obtain ⟨es, a, -, rfl, -⟩ := Node.exists_directory_of_get?_cons hlast
    rw [List.dropLast_concat, seen, hm]
    rfl

theorem seen_eq_directory_iff {n : Node} (hn : t.root.get? place = some n) :
    t.seen place = some .directory ↔ n.isDirectory = true := by
  rw [seen, hn]
  cases n <;> simp [Node.face, Node.isDirectory]

theorem ne_empty_of_checkPath (h : checkPath path = .ok ()) : path ≠ "" := by
  rintro rfl
  cases h

/-- The own name of what a path leads to is the last name of the path, unless it is a
directory. -/
theorem fileName?_of_locate (ht : IsLinkFree t.root) (hplace : t.locate path = .ok place)
    {n : Node} (hn : t.root.get? place = some n) (hdirectory : n.isDirectory = false) :
    Path.fileName? path = place.getLast? := by
  obtain ⟨hcheck, ⟨used, -, hleads⟩, face, hface, hslash⟩ := locate_eq_ok.mp hplace
  have hfile : t.seen place ≠ some .directory := by
    rw [ne_eq, seen_eq_directory_iff hn, hdirectory]
    exact Bool.false_ne_true
  obtain ⟨name, hname⟩ := Path.exists_endsIn path
  have hne : name ≠ "" := by
    rintro rfl
    rcases hname.2 with hempty | ⟨body, hbody⟩
    · exact ne_empty_of_checkPath hcheck (String.toList_inj.mp hempty)
    · have hends : Path.endsWithSlash path = true := by simp [Path.endsWithSlash, hbody]
      exact hfile (hface.trans (congrArg some (hslash hends)))
  have hlinks : ∀ p target k, t.seen p ≠ some (.link target k) := by
    intro p target k hlink
    obtain ⟨m, hm, hmface⟩ := Option.map_eq_some_iff.mp hlink
    have hfree := (ht.get? hm).isLink_eq_false
    cases m with
    | link => cases hfree
    | _ => cases hmface
  obtain ⟨above, hstep⟩ := hleads.exists_last_step hlinks (Path.getLast?_names hname hne)
  obtain ⟨habove, ⟨-, rfl⟩ | ⟨-, -, rfl⟩ | ⟨-, -, -, -, rfl⟩⟩ := step_eq_ok.mp hstep
  · exact absurd habove hfile
  · exact absurd (seen_dropLast habove) hfile
  · have hentry : IsEntryName name := ht.isEntryName hn name (by simp)
    rw [Path.fileName?_eq hname hentry, List.getLast?_concat]

/-- A source file below a place: the names lead to something that is no directory, none of them
is hidden, and its own name, which is the last one, is not that of a backup copy. Whatever is
neither a directory nor a link counts as a plain file, which devices and pipes do as well. -/
structure IsSource (t : FileTree) (place names : List String) : Prop where
  /-- A plain file stands there. -/
  plain : ∃ n, t.root.get? (place ++ names) = some n ∧ n.isDirectory = false
  /-- No entry on the way is hidden, nor is the file. -/
  visible : ∀ name ∈ names, name.toList.head? ≠ some '.'
  /-- It is no backup copy. -/
  original : ∀ name ∈ (place ++ names).getLast?, name.toList.getLast? ≠ some '~'

/-- A path names a backup copy if the own name of the file does. -/
theorem isBackup_below (ht : IsLinkFree t.root) (hplace : t.locate path = .ok place)
    {names : List String} {n : Node} (hn : t.root.get? (place ++ names) = some n)
    (hdirectory : n.isDirectory = false) :
    isBackup (Path.below path names) = false ↔
      ∀ name ∈ (place ++ names).getLast?, name.toList.getLast? ≠ some '~' := by
  have hpath := ne_empty_of_checkPath (locate_eq_ok.mp hplace).1
  have hnames : ∀ name ∈ names, IsEntryName name := fun name hname =>
    ht.isEntryName hn name (List.mem_append_right _ hname)
  have hfile : Path.fileName? (Path.below path names) = (place ++ names).getLast? := by
    rcases List.eq_nil_or_concat names with rfl | ⟨above, last, rfl⟩
    · rw [List.append_nil] at hn ⊢
      exact fileName?_of_locate ht hplace hn hdirectory
    · rw [List.concat_eq_append] at hnames ⊢
      obtain ⟨habove, hlast⟩ := List.forall_mem_append.mp hnames
      have hentry := hlast last (List.mem_singleton_self last)
      rw [Path.below_append_singleton, ← List.append_assoc, List.getLast?_concat]
      exact Path.fileName?_eq (Path.endsIn_join (Path.below_ne_empty hpath habove) hentry) hentry
  rw [isBackup, hfile]
  cases (place ++ names).getLast? <;> simp

/-- Collecting the source files of a path is complete, without repetitions and sorted: in a tree
without links, each plain file at or below the start that no hidden entry below the start leads to
and that is no backup copy is found exactly once, and the paths of the files are in strictly
increasing order, compared by components and these byte by byte. -/
theorem sources_exact (ht : IsLinkFree t.root) (hplace : t.locate path = .ok place) :
    ∃ found : List (List String),
      t.sources path = .ok (found.map (Path.below path)) ∧
        (∀ names, names ∈ found ↔ t.IsSource place names) ∧
        (found.map (Path.below path)).Pairwise Path.Before := by
  obtain ⟨hcheck, -, face, hface, -⟩ := locate_eq_ok.mp hplace
  obtain ⟨n, hn, -⟩ := Option.map_eq_some_iff.mp hface
  have hpath := ne_empty_of_checkPath hcheck
  have hfree := ht.get? hn
  have hget : ∀ names, t.root.get? (place ++ names) = n.get? names := by
    intro names
    rw [Node.get?_append, hn, Option.bind_some]
  refine ⟨n.ways.filter fun names => !isBackup (Path.below path names), ?_, fun names => ?_, ?_⟩
  · have hfind : t.find path = .ok n := find_eq_ok.mpr ⟨place, hplace, hn⟩
    have hbelow := Node.sources_eq hfree (t.sourcesWithin maxLinks) path
    rw [List.filter_map] at hbelow
    rw [sources, sourcesWithin, sourcesWith, hfind]
    exact hbelow
  · rw [List.mem_filter, Node.mem_ways_iff hfree, Bool.not_eq_true']
    constructor
    · rintro ⟨⟨⟨m, hm, hdirectory⟩, hvisible⟩, hbackup⟩
      rw [← hget] at hm
      refine ⟨⟨m, hm, hdirectory⟩, fun name hname => ?_,
        (isBackup_below ht hplace hm hdirectory).mp hbackup⟩
      exact beq_eq_false_iff_ne.mp (hvisible name hname)
    · rintro ⟨⟨m, hm, hdirectory⟩, hvisible, hbackup⟩
      refine ⟨⟨⟨m, (hget names).symm.trans hm, hdirectory⟩, fun name hname => ?_⟩,
        (isBackup_below ht hplace hm hdirectory).mpr hbackup⟩
      exact beq_eq_false_iff_ne.mpr (hvisible name hname)
  · rw [List.pairwise_map]
    refine ((Node.pairwise_ways hfree).filter _).imp_of_mem fun hp hq hlt => ?_
    have hentries : ∀ names ∈ n.ways, ∀ name ∈ names, IsEntryName name := by
      intro names hnames
      obtain ⟨⟨m, hm, -⟩, -⟩ := (Node.mem_ways_iff hfree names).mp hnames
      exact hfree.isEntryName hm
    exact Path.before_below hpath (hentries _ (List.mem_of_mem_filter hp))
      (hentries _ (List.mem_of_mem_filter hq)) hlt

namespace Scattered

/-- Entries of which some are hidden, one is a backup copy and one a directory with the name of
such a copy. -/
def entries : List (String × Node) :=
  [("old~", .directory [("x.vhd", .ofBytes [])] .ofDirectory), ("a.vhd~", .ofBytes []),
    ("a-b", .directory [(".x.vhd", .ofBytes []), ("z.vhd", .ofBytes [])] .ofDirectory),
    (".git", .directory [("x.vhd", .ofBytes [])] .ofDirectory),
    ("a", .directory [("y.vhd", .ofBytes [])] .ofDirectory)]

/-- A hidden directory with these entries. -/
def tree : FileTree where
  root := .directory [(".src", .directory entries .ofDirectory)] .ofDirectory
  workingDirectory := []

theorem isLinkFree_root : IsLinkFree tree.root := by
  have hfile : IsLinkFree (.ofBytes []) := .leaf rfl rfl
  refine .directory (by decide) (by decide) ?_
  rw [List.forall_mem_singleton]
  refine .directory (by decide) (by decide) ?_
  simp only [entries, List.forall_mem_cons]
  refine ⟨?_, hfile, ?_, ?_, ?_, List.forall_mem_nil _⟩ <;>
    exact .directory (by decide) (by decide) (by simp [hfile])

theorem sources_src :
    tree.sources ".src" = .ok [".src/a/y.vhd", ".src/a-b/z.vhd", ".src/old~/x.vhd"] := by
  have hfind : tree.find ".src" = .ok (.directory entries .ofDirectory) :=
    find_eq_ok.mpr ⟨[".src"], by decide +kernel, rfl⟩
  have hsearched : searched entries = (entries.filter fun e => !isHidden e.1).reverse :=
    byName_eq_of_perm (List.reverse_perm _) (by decide)
  rw [sources, sourcesWithin, sourcesWith, hfind]
  change (Node.directory entries .ofDirectory).sources _ _ = _
  rw [Node.sources_directory, hsearched]
  decide +kernel

/-- Hidden entries and the backup copy are left out, but neither the hidden start nor the
directory with a tilde; the directory with the shorter name comes first. -/
theorem three_files_collected :
    IsLinkFree tree.root ∧ tree.locate ".src" = .ok [".src"] ∧
      ∃ found : List (List String), tree.sources ".src" = .ok (found.map (Path.below ".src")) ∧
        found.map (Path.below ".src") =
          [".src/a/y.vhd", ".src/a-b/z.vhd", ".src/old~/x.vhd"] ∧
        ["old~", "x.vhd"] ∈ found ∧ ["a.vhd~"] ∉ found ∧ [".git", "x.vhd"] ∉ found ∧
        (found.map (Path.below ".src")).Pairwise Path.Before := by
  have hplace : tree.locate ".src" = .ok [".src"] := by decide +kernel
  obtain ⟨found, hsources, hmem, hsorted⟩ := sources_exact isLinkFree_root hplace
  refine ⟨isLinkFree_root, hplace, found, hsources,
    Except.ok.inj (hsources.symm.trans sources_src), ?_, ?_, ?_, hsorted⟩
  · exact (hmem _).mpr ⟨⟨_, rfl, rfl⟩, by decide, by decide⟩
  · exact fun hcopy => ((hmem _).mp hcopy).original "a.vhd~" rfl rfl
  · exact fun hhidden => ((hmem _).mp hhidden).visible ".git" (by simp) rfl

end Scattered

end FileTree

end CompileOrder
