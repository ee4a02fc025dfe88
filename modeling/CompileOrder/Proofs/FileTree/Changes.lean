import CompileOrder.Proofs.FileTree.Resolution

/-!
# What changes of the tree leave to be seen

Making a directory puts one where nothing stood. Writing to a file changes what is seen under
the names of this file, and under no other ones. Both keep the kind of every node that was
there, so that paths go on to lead where they led. A file that is made anew has one name.
-/

namespace CompileOrder.FileTree

variable {t t' t'' : FileTree} {place p q : List String} {name path : String} {face : Face}

/-- The number that the node at a place shares with its other names, if it has any. -/
def sharedNumber (t : FileTree) (place : List String) : Nat :=
  ((t.seen place).map Face.identity).getD 0

/-- Whether two places are names of the same file. -/
def sameFile (t : FileTree) (p q : List String) : Bool :=
  p == q || (t.sharedNumber p != 0 && t.sharedNumber p == t.sharedNumber q)

theorem sameFile_iff :
    t.sameFile p q = true ↔ p = q ∨ t.sharedNumber p ≠ 0 ∧ t.sharedNumber p = t.sharedNumber q := by
  simp [sameFile]

theorem sameFile_comm : t.sameFile p q = t.sameFile q p := by
  rw [Bool.eq_iff_iff, sameFile_iff, sameFile_iff]
  constructor
  · rintro (h | ⟨h, heq⟩)
    · exact Or.inl h.symm
    · exact Or.inr ⟨heq ▸ h, heq.symm⟩
  · rintro (h | ⟨h, heq⟩)
    · exact Or.inl h.symm
    · exact Or.inr ⟨heq ▸ h, heq.symm⟩

/-- The places that share a number hold nodes of one kind. -/
def Numbered (t : FileTree) : Prop :=
  ∀ p q, t.sharedNumber p ≠ 0 → t.sharedNumber p = t.sharedNumber q →
    (t.seen p).map Face.kind = (t.seen q).map Face.kind

theorem sharedNumber_of_seen (h : t.seen place = some face) :
    t.sharedNumber place = face.identity := by
  rw [sharedNumber, h]
  rfl

/-- Only the kinds of nodes matter for their numbers. -/
theorem sharedNumber_congr (h : (t'.seen place).map Face.kind = (t.seen place).map Face.kind) :
    t'.sharedNumber place = t.sharedNumber place := by
  have hidentity : ∀ face : Option Face,
      (face.map Face.kind).map Face.identity = face.map Face.identity := by
    intro face
    cases face <;> simp
  rw [sharedNumber, sharedNumber, ← hidentity, h, hidentity]

/-- Where no file has several names, nothing is shared. -/
theorem numbered_of_lastIdentity (h : t.root.lastIdentity = 0) : t.Numbered := by
  intro p q hp
  refine absurd ?_ hp
  rw [sharedNumber, seen]
  cases hn : t.root.get? p with
  | none => rfl
  | some n => exact Nat.le_zero.mp (h ▸ Node.identity_le_lastIdentity hn)

/-- The same kind of node stands at every place, or nothing. -/
structure SameKinds (t t' : FileTree) : Prop where
  /-- Relative paths start where they started. -/
  workingDirectory : t'.workingDirectory = t.workingDirectory
  /-- Every node keeps its kind, and no node is made. -/
  kind : ∀ place, (t'.seen place).map Face.kind = (t.seen place).map Face.kind

namespace SameKinds

theorem refl (t : FileTree) : SameKinds t t := ⟨rfl, fun _ => rfl⟩

theorem trans (h : SameKinds t t') (h' : SameKinds t' t'') : SameKinds t t'' :=
  ⟨h'.workingDirectory.trans h.workingDirectory,
    fun place => (h'.kind place).trans (h.kind place)⟩

theorem toExtends (h : SameKinds t t') : Extends t t' where
  workingDirectory := h.workingDirectory
  kind place face hface := by rw [h.kind, hface]; rfl

theorem sharedNumber (h : SameKinds t t') (place : List String) :
    t'.sharedNumber place = t.sharedNumber place := sharedNumber_congr (h.kind place)

theorem sameFile (h : SameKinds t t') (p q : List String) : t'.sameFile p q = t.sameFile p q := by
  rw [FileTree.sameFile, FileTree.sameFile, h.sharedNumber, h.sharedNumber]

theorem numbered (h : SameKinds t t') (hnumbered : t.Numbered) : t'.Numbered := by
  intro p q hp hpq
  rw [h.sharedNumber] at hp
  rw [h.sharedNumber, h.sharedNumber] at hpq
  rw [h.kind, h.kind, hnumbered p q hp hpq]

end SameKinds

/-- The time of a change is not seen. -/
@[simp] theorem seen_stamp (t : FileTree) (place p : List String) :
    (t.stamp place).seen p = t.seen p := by
  rw [stamp]
  split
  · rename_i n hn
    refine Node.face_get?_set_same hn (fun q => ?_) p
    cases q with
    | nil => simp
    | cons name q => cases n <;> rfl
  · rfl

@[simp] theorem workingDirectory_stamp (t : FileTree) (place : List String) :
    (t.stamp place).workingDirectory = t.workingDirectory := by
  rw [stamp]
  split <;> rfl

/-- A node without entries that is put in a directory is seen there and nowhere else. -/
theorem seen_put {n : Node} (hplace : t.seen place = some .directory)
    (hfree : t.seen (place ++ [name]) = none) (hn : ∀ name p, n.get? (name :: p) = none) :
    (t.put (place ++ [name]) n).seen p =
      if p = place ++ [name] then some n.face else t.seen p := by
  have hnone : t.root.get? (place ++ [name]) = none := Option.map_eq_none_iff.mp hfree
  rw [put, seen_stamp]
  refine Node.face_get?_set_leaf ?_ ?_ hn p
  · intro above last hlast
    obtain ⟨rfl, -⟩ := List.append_inj' hlast rfl
    exact hplace
  · intro other q
    rw [Node.get?_append, hnone]
    rfl

@[simp] theorem workingDirectory_put (t : FileTree) (place : List String) (n : Node) :
    (t.put place n).workingDirectory = t.workingDirectory := by simp [put]

/-- A node that changes is seen changed under all of its names, and other nodes are not. -/
theorem seen_change {n : Node} (hplace : t.seen place = some face)
    (hface : face ≠ .directory) (hn : n.face ≠ .directory)
    (hidentity : n.face.identity = face.identity) :
    (t.change place n).seen p = if t.sameFile place p then some n.face else t.seen p := by
  have hnumber : t.sharedNumber place = n.face.identity := by
    rw [sharedNumber_of_seen hplace, hidentity]
  obtain ⟨old, hold, rfl⟩ := Option.map_eq_some_iff.mp hplace
  rw [change, ← Node.identity_face hn]
  by_cases hone : n.face.identity = 0
  · have hsame : t.sameFile place p = true ↔ p = place := by
      rw [sameFile_iff, hnumber, hone]
      simp [eq_comm]
    simp only [hone, beq_self_eq_true, if_true, hsame]
    refine Node.face_get?_set_leaf (Node.hasRoom_of_get? hold) (fun name q => ?_)
      (Node.get?_cons_eq_none hn) p
    rw [Node.get?_append, hold]
    exact Node.get?_cons_eq_none hface name q
  · have hmany : (n.face.identity == 0) = false := beq_false_of_ne hone
    have hsame : t.sameFile place p = true ↔ t.sharedNumber p = n.face.identity := by
      rw [sameFile_iff, hnumber]
      constructor
      · rintro (rfl | ⟨-, hp⟩)
        · exact hnumber
        · exact hp.symm
      · exact fun hp => Or.inr ⟨hone, hp.symm⟩
    simp only [hmany, Bool.false_eq_true, if_false, hsame]
    rw [seen, Node.face_get?_replaceAll hn hone]
    cases hp : t.root.get? p with
    | none => simp [sharedNumber, seen, hp, Ne.symm hone]
    | some m =>
      by_cases hm : m.face.identity = n.face.identity <;> simp [sharedNumber, seen, hp, hm]

@[simp] theorem workingDirectory_change (t : FileTree) (place : List String) (n : Node) :
    (t.change place n).workingDirectory = t.workingDirectory := by
  rw [change]
  split <;> rfl

/-- A node that changes but keeps its kind leaves the kinds of all nodes as they are. -/
theorem sameKinds_change {n : Node} (hnumbered : t.Numbered)
    (hplace : t.seen place = some face) (hface : face ≠ .directory)
    (hkind : n.face.kind = face.kind) : SameKinds t (t.change place n) where
  workingDirectory := workingDirectory_change t place n
  kind p := by
    have hn : n.face ≠ .directory := fun he => hface (by
      rw [he] at hkind
      exact Face.eq_directory_of_kind hkind.symm)
    have hidentity : n.face.identity = face.identity := by
      rw [← Face.identity_kind, hkind, Face.identity_kind]
    rw [seen_change hplace hface hn hidentity]
    split
    · rename_i hsame
      have hp : (t.seen place).map Face.kind = (t.seen p).map Face.kind := by
        rcases sameFile_iff.mp hsame with rfl | ⟨hshared, hequal⟩
        · rfl
        · exact hnumbered place p hshared hequal
      rw [← hp, hplace]
      exact congrArg some hkind
    · rfl

/-- Replacing contents changes a file or a pipe and nothing else. -/
theorem replace_eq (hplace : t.seen place = some face) (bytes : Text.Bytes) :
    (∃ n, (∀ old k, face = .file old k → n.face = .file bytes k) ∧ n.face.kind = face.kind ∧
      face ≠ .directory ∧ t.replace place bytes (t.root.get? place) = t.change place n) ∨
    (∀ old k, face ≠ .file old k) ∧ t.replace place bytes (t.root.get? place) = t := by
  obtain ⟨old, hold, rfl⟩ := Option.map_eq_some_iff.mp hplace
  rw [hold]
  cases old with
  | file old a =>
    refine Or.inl ⟨.file bytes { a with modified := t.time }, ?_, rfl, by simp [Node.face], rfl⟩
    rintro - - ⟨⟩
    rfl
  | pipe old a =>
    exact Or.inl ⟨.pipe bytes { a with modified := t.time }, by simp [Node.face], rfl,
      by simp [Node.face], rfl⟩
  | _ => exact Or.inr ⟨by simp [Node.face], rfl⟩

/-- Replacing contents leaves the kinds of all nodes as they are. -/
theorem sameKinds_replace (hnumbered : t.Numbered) (hplace : t.seen place = some face)
    (bytes : Text.Bytes) : SameKinds t (t.replace place bytes (t.root.get? place)) := by
  rcases replace_eq hplace bytes with ⟨n, -, hkind, hface, heq⟩ | ⟨-, heq⟩
  · rw [heq]
    exact sameKinds_change hnumbered hplace hface hkind
  · rw [heq]
    exact .refl t

/-- New contents of a file are seen under all of its names. -/
theorem seen_replace_file {old : Text.Bytes} {k : Nat} (hplace : t.seen place = some (.file old k))
    (bytes : Text.Bytes) :
    (t.replace place bytes (t.root.get? place)).seen p =
      if t.sameFile place p then some (.file bytes k) else t.seen p := by
  rcases replace_eq hplace bytes with ⟨n, hn, -, hface, heq⟩ | ⟨hother, -⟩
  · have hn' := hn old k rfl
    rw [heq, seen_change hplace hface (by simp [hn']) (by rw [hn']; rfl), hn']
  · exact absurd rfl (hother old k)

/-- Adding bytes is replacing contents by longer ones. -/
theorem append_eq {bytes : Text.Bytes} (h : t.append place bytes = .ok t') :
    t' = t.replace place (t.contents place ++ bytes) (t.root.get? place) := by
  rw [append] at h
  split at h
  · rename_i a hfull
    split at h
    · rw [hfull]
      exact (Except.ok.inj h).symm
    · cases h
  · exact (Except.ok.inj h).symm

/-- Adding bytes leaves the kinds of all nodes as they are. -/
theorem sameKinds_append {bytes : Text.Bytes} (hnumbered : t.Numbered)
    (hplace : t.seen place = some face) (h : t.append place bytes = .ok t') :
    SameKinds t t' := by
  rw [append_eq h]
  exact sameKinds_replace hnumbered hplace _

/-- Bytes added to a file are seen under all of its names. -/
theorem seen_append_file {old bytes : Text.Bytes} {k : Nat}
    (hplace : t.seen place = some (.file old k)) (h : t.append place bytes = .ok t') :
    t'.seen p = if t.sameFile place p then some (.file (old ++ bytes) k) else t.seen p := by
  have hcontents : t.contents place = old := by
    obtain ⟨n, hn, hface⟩ := Option.map_eq_some_iff.mp hplace
    cases n <;> cases hface
    rw [contents, hn]
  rw [append_eq h, seen_replace_file hplace, hcontents]

/-- Between two trees some directories were made where nothing stood. -/
structure AddsDirectories (t t' : FileTree) : Prop where
  /-- Relative paths start where they started. -/
  workingDirectory : t'.workingDirectory = t.workingDirectory
  /-- Only where nothing stood something is seen that was not, and it is a directory. -/
  seen : ∀ place, t'.seen place = t.seen place ∨
    t.seen place = none ∧ t'.seen place = some .directory

namespace AddsDirectories

theorem refl (t : FileTree) : AddsDirectories t t := ⟨rfl, fun _ => Or.inl rfl⟩

theorem trans (h : AddsDirectories t t') (h' : AddsDirectories t' t'') : AddsDirectories t t'' where
  workingDirectory := h'.workingDirectory.trans h.workingDirectory
  seen place := by
    rcases h.seen place with hsame | ⟨hnone, hmade⟩
    · rw [← hsame]
      exact h'.seen place
    · rcases h'.seen place with hsame' | ⟨hnone', -⟩
      · exact Or.inr ⟨hnone, hsame'.trans hmade⟩
      · rw [hmade] at hnone'
        cases hnone'

theorem of_some (h : AddsDirectories t t') (hplace : t.seen place = some face) :
    t'.seen place = some face := by
  rcases h.seen place with hsame | ⟨hnone, -⟩
  · exact hsame.trans hplace
  · rw [hplace] at hnone
    cases hnone

theorem toExtends (h : AddsDirectories t t') : Extends t t' where
  workingDirectory := h.workingDirectory
  kind place face hface := by rw [h.of_some hface]; rfl

theorem sharedNumber (h : AddsDirectories t t') (place : List String) :
    t'.sharedNumber place = t.sharedNumber place := by
  rw [FileTree.sharedNumber, FileTree.sharedNumber]
  rcases h.seen place with hsame | ⟨hnone, hmade⟩
  · rw [hsame]
  · rw [hnone, hmade]
    rfl

/-- Directories have one name each. -/
theorem numbered (h : AddsDirectories t t') (hnumbered : t.Numbered) : t'.Numbered := by
  intro p q hp hpq
  have hold : ∀ place, t'.sharedNumber place ≠ 0 → t'.seen place = t.seen place := by
    intro place hplace
    rcases h.seen place with hsame | ⟨-, hmade⟩
    · exact hsame
    · rw [sharedNumber_of_seen hmade] at hplace
      exact absurd rfl hplace
  rw [hold p hp, hold q (hpq ▸ hp)]
  rw [h.sharedNumber] at hp
  rw [h.sharedNumber, h.sharedNumber] at hpq
  exact hnumbered p q hp hpq

end AddsDirectories

theorem addsDirectories_makeDirectory (h : t.makeDirectory path = .ok t') :
    AddsDirectories t t' := by
  obtain ⟨⟨place, name?⟩, hlast, hmade⟩ := exists_of_bind_eq_ok h
  cases name? with
  | none => cases hmade
  | some name =>
    simp only at hmade
    split at hmade
    · cases hmade
    · rename_i hfree
      obtain rfl := Except.ok.inj hmade
      obtain ⟨u, -, hlast⟩ := exists_of_bind_eq_ok hlast
      have hplace : t.seen place = some .directory := (lastOf_some hlast).directory
      have hnone : t.seen (place ++ [name]) = none := by
        rw [seen, Option.not_isSome_iff_eq_none.mp hfree]
        rfl
      refine ⟨workingDirectory_put .., fun p => ?_⟩
      rw [seen_put hplace hnone fun other q => rfl]
      split
      · rename_i hp
        exact Or.inr ⟨hp ▸ hnone, rfl⟩
      · exact Or.inl rfl

theorem addsDirectories_makeOrKeep (h : t.makeOrKeep path = .ok t') : AddsDirectories t t' := by
  rw [makeOrKeep] at h
  split at h
  · rename_i made hmade
    obtain rfl := Except.ok.inj h
    exact addsDirectories_makeDirectory hmade
  · split at h
    · obtain rfl := Except.ok.inj h
      exact .refl t
    · cases h

theorem addsDirectories_makeDirectories {depth : Nat} (h : makeDirectories depth t path = .ok t') :
    AddsDirectories t t' := by
  induction depth generalizing path t' with
  | zero => exact addsDirectories_makeOrKeep h
  | succ depth ih =>
    rw [makeDirectories] at h
    split at h
    · obtain rfl := Except.ok.inj h
      exact .refl t
    · split at h
      · rename_i made hmade
        obtain rfl := Except.ok.inj h
        exact addsDirectories_makeDirectory hmade
      · split at h
        · obtain ⟨made, hmade, hkept⟩ := exists_of_bind_eq_ok h
          exact (ih hmade).trans (addsDirectories_makeOrKeep hkept)
        · cases h
      · split at h
        · obtain rfl := Except.ok.inj h
          exact .refl t
        · cases h

/-- Making sure that there is a directory at most makes directories. -/
theorem addsDirectories_ensureDirectory (h : t.ensureDirectory path = .ok t') :
    AddsDirectories t t' := by
  rw [ensureDirectory] at h
  split at h
  · obtain rfl := Except.ok.inj h
    exact .refl t
  · exact addsDirectories_makeDirectories h

/-- A file was opened at the end of a path: it was made, or emptied under all of its names. A
pipe or a device may stand there as well. -/
structure Opens (path : String) (place : List String) (t t' : FileTree) : Prop where
  /-- All nodes keep their kinds. -/
  toExtends : Extends t t'
  /-- A new file has no number yet. -/
  numbered : t'.Numbered
  /-- Something stands at the place. -/
  there : ∃ face, t'.seen place = some face
  /-- If it is a file, it is empty, and nothing else has changed. -/
  seen : ∀ bytes k, t'.seen place = some (.file bytes k) → ∀ p,
    t'.seen p = if t'.sameFile place p then some (.file [] k) else t.seen p
  /-- The path leads there from now on, if it leads anywhere. -/
  leads : ∀ t'', Extends t' t'' → ∀ p, t''.locate path = .ok p → p = place

/-- Opening puts an empty file where nothing stood, replaces contents, or leaves a pipe alone. -/
theorem create_eq_ok (h : t.create path = .ok (t', place)) : ∃ above name,
    place = above ++ [name] ∧
      t.lastFollowing maxLinks (t.startOf path) (Path.names path) = .ok (above, some name) ∧
      (t.seen place = none ∧ t' = t.put place (.file [] (t.newAttributes 0o666)) ∨
        ∃ face, t.seen place = some face ∧ (t' = t.replace place [] (t.root.get? place) ∨
          t' = t ∧ ∀ old k, face ≠ .file old k)) := by
  obtain ⟨u, -, hchecked⟩ := exists_of_bind_eq_ok h
  obtain ⟨⟨above, name?⟩, hlast, hopened⟩ := exists_of_bind_eq_ok hchecked
  cases name? with
  | none => cases hopened
  | some name =>
    simp only at hopened
    split at hopened
    · cases hopened
    · split at hopened
      · cases hopened
      · cases hopened
      · rename_i pending a hpipe
        obtain ⟨rfl, rfl⟩ := Prod.mk.inj (Except.ok.inj hopened)
        exact ⟨above, name, rfl, hlast, Or.inr ⟨.pipe pending a.identity,
          by rw [seen, hpipe]; rfl, Or.inr ⟨rfl, by simp⟩⟩⟩
      · obtain ⟨rfl, rfl⟩ := Prod.mk.inj (Except.ok.inj hopened)
        refine ⟨above, name, rfl, hlast, ?_⟩
        cases hnode : t.root.get? (above ++ [name]) with
        | none => exact Or.inl ⟨by rw [seen, hnode]; rfl, rfl⟩
        | some n => exact Or.inr ⟨n.face, by rw [seen, hnode]; rfl, Or.inl rfl⟩

/-- Once something other than a link stands where a path was found to end, the path leads
there, if it leads anywhere. -/
theorem eq_of_lastFollowing {links : Nat}
    (h : t.lastFollowing links (t.startOf path) (Path.names path) = .ok (place, some name))
    (hext : Extends t t') (hthere : t'.seen (place ++ [name]) = some face)
    (hnode : ∀ target k, face ≠ .link target k) (hp : t'.locate path = .ok p) :
    p = place ++ [name] := by
  obtain ⟨used, hleads⟩ := (leads_of_lastFollowing h).2.2 t' face hext hthere hnode
  obtain ⟨-, ⟨used', -, hleads'⟩, -⟩ := locate_eq_ok.mp hp
  rw [startOf, hext.workingDirectory] at hleads'
  exact (hleads.unique hleads').2

/-- A file that is made is seen under one name. -/
theorem opens_of_made {links : Nat} (hnumbered : t.Numbered)
    (hlast : t.lastFollowing links (t.startOf path) (Path.names path) = .ok (place, some name))
    (hfree : t.seen (place ++ [name]) = none) (hstart : t'.workingDirectory = t.workingDirectory)
    (hseen : ∀ p, t'.seen p = if p = place ++ [name] then some (.file [] 0) else t.seen p) :
    Opens path (place ++ [name]) t t' := by
  have hmade : t'.seen (place ++ [name]) = some (.file [] 0) := by rw [hseen, if_pos rfl]
  have hext : Extends t t' := by
    refine ⟨hstart, fun p face hface => ?_⟩
    have hp : p ≠ place ++ [name] := by
      rintro rfl
      rw [hfree] at hface
      cases hface
    rw [hseen, if_neg hp, hface]
    rfl
  have hnumber : ∀ p, t'.sharedNumber p = t.sharedNumber p := by
    intro p
    rw [sharedNumber, sharedNumber, hseen]
    split
    · rename_i hp
      rw [hp, hfree]
      rfl
    · rfl
  have hold : ∀ p, t'.sharedNumber p ≠ 0 → t'.seen p = t.seen p := by
    intro p hp
    rw [hseen, if_neg]
    rintro rfl
    exact hp (sharedNumber_of_seen hmade)
  constructor
  · exact hext
  · intro p q hp hpq
    rw [hold p hp, hold q (hpq ▸ hp)]
    exact hnumbered p q (hnumber p ▸ hp) (by rw [← hnumber, ← hnumber, hpq])
  · exact ⟨_, hmade⟩
  · intro bytes k hfile p
    obtain ⟨rfl, rfl⟩ := Face.file.inj (Option.some.inj (hmade.symm.trans hfile))
    have hsame : t'.sameFile (place ++ [name]) p = true ↔ p = place ++ [name] := by
      rw [sameFile_iff, sharedNumber_of_seen hmade]
      simp [Face.identity, eq_comm]
    simp only [hsame]
    exact hseen p
  · intro t'' hext' p hp
    obtain ⟨face, hface, hkind⟩ := Option.map_eq_some_iff.mp (hext'.kind _ _ hmade)
    refine eq_of_lastFollowing hlast (hext.trans hext') hface (fun target k hlink => ?_) hp
    rw [hlink] at hkind
    cases hkind

/-- A file that is found is emptied under all of its names. -/
theorem opens_of_found {links : Nat} (hnumbered : t.Numbered)
    (hlast : t.lastFollowing links (t.startOf path) (Path.names path) = .ok (place, some name))
    (hfound : t.seen (place ++ [name]) = some face) (hkinds : SameKinds t t')
    (hseen : ∀ old k, face = .file old k → ∀ p,
      t'.seen p = if t.sameFile (place ++ [name]) p then some (.file [] k) else t.seen p) :
    Opens path (place ++ [name]) t t' := by
  have hkind := hkinds.kind (place ++ [name])
  rw [hfound, Option.map_some] at hkind
  obtain ⟨face', hface', hkind⟩ := Option.map_eq_some_iff.mp hkind
  constructor
  · exact hkinds.toExtends
  · exact hkinds.numbered hnumbered
  · exact ⟨face', hface'⟩
  · intro bytes k hfile p
    obtain rfl := Option.some.inj (hface'.symm.trans hfile)
    obtain ⟨old, rfl⟩ := Face.exists_file_of_kind hkind.symm
    rw [hkinds.sameFile]
    exact hseen old k rfl p
  · intro t'' hext p hp
    obtain ⟨face'', hface'', hkind''⟩ := Option.map_eq_some_iff.mp (hext.kind _ _ hface')
    refine eq_of_lastFollowing hlast (hkinds.toExtends.trans hext) hface''
      (fun target k hlink => ?_) hp
    rw [hlink, hkind] at hkind''
    rw [Face.eq_link_of_kind hkind''.symm] at hfound
    exact (leads_of_lastFollowing hlast).2.1 target k hfound

/-- A file to be written anew is opened at the end of its path. -/
theorem opens_create (hnumbered : t.Numbered) (h : t.create path = .ok (t', place)) :
    Opens path place t t' := by
  obtain ⟨above, name, rfl, hlast, hmade | ⟨face, hold, hfound⟩⟩ := create_eq_ok h
  · obtain ⟨hfree, rfl⟩ := hmade
    refine opens_of_made hnumbered hlast hfree (workingDirectory_put ..) fun p => ?_
    exact seen_put (leads_of_lastFollowing hlast).1 hfree fun _ _ => rfl
  · rcases hfound with rfl | ⟨rfl, hother⟩
    · refine opens_of_found hnumbered hlast hold (sameKinds_replace hnumbered hold []) ?_
      rintro old k rfl p
      exact seen_replace_file hold []
    · exact opens_of_found hnumbered hlast hold (.refl t') fun old k he => absurd he (hother old k)

end CompileOrder.FileTree
