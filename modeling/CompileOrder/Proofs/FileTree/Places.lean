import CompileOrder.FileTree
import Mathlib.Data.List.Basic

/-!
# What stands at a place

Following a path depends on little of a node: whether it is a directory, where it leads to
if it is a link, and whether something stands below it. Reading depends on the bytes as
well, and writing on the number that the names of a file share. This is the face of a node.
A change of the tree is described by the faces it leaves at every place; what stands in
directories is a face at another place, and the times of change are part of none.
-/

namespace CompileOrder

/-- What a node shows besides its times, its permissions and the entries of a directory. -/
inductive Face where
  /-- A file, with the number that its names share. -/
  | file (bytes : Text.Bytes) (identity : Nat)
  /-- A directory. -/
  | directory
  /-- A link. -/
  | link (target : String) (identity : Nat)
  /-- A device. -/
  | device (kind : Device) (identity : Nat)
  /-- A pipe with what can be read from it. -/
  | pipe (pending : Text.Bytes) (identity : Nat)
  deriving DecidableEq, Repr

namespace Face

/-- The number that the names of the node share; directories have one name. -/
def identity : Face → Nat
  | .file _ k | .link _ k | .device _ k | .pipe _ k => k
  | .directory => 0

/-- What can be read. -/
def read : Face → Except FileFault Text.Bytes
  | .file bytes _ => .ok bytes
  | .directory => .error .isDirectory
  | .link _ _ => .error .tooManyLinks
  | .device .null _ => .ok []
  | .device .terminal _ => .error .noDevice
  | .device _ _ => .ok FileTree.supply
  | .pipe pending _ => .ok pending

/-- The face without what can be read. -/
def kind : Face → Face
  | .file _ k => .file [] k
  | .pipe _ k => .pipe [] k
  | face => face

@[simp] theorem identity_kind (face : Face) : face.kind.identity = face.identity := by
  cases face <;> rfl

theorem eq_directory_of_kind {face : Face} (h : face.kind = .directory) : face = .directory := by
  cases face <;> first | rfl | cases h

theorem eq_link_of_kind {face : Face} {target : String} {k : Nat}
    (h : face.kind = .link target k) : face = .link target k := by
  cases face <;> first | exact h | cases h

theorem exists_file_of_kind {face : Face} {bytes : Text.Bytes} {k : Nat}
    (h : face.kind = (Face.file bytes k).kind) : ∃ old, face = .file old k := by
  cases face <;> cases h
  exact ⟨_, rfl⟩

end Face

namespace Node

/-- The face of a node. -/
def face : Node → Face
  | .file bytes a => .file bytes a.identity
  | .directory _ _ => .directory
  | .link target a => .link target a.identity
  | .device kind a => .device kind a.identity
  | .pipe pending a => .pipe pending a.identity

theorem identity_face {n : Node} (h : n.face ≠ .directory) :
    n.face.identity = n.about.identity := by
  cases n <;> first | rfl | exact absurd rfl h

theorem readNode_eq (n : Node) : FileTree.readNode n = n.face.read := by
  cases n with
  | device kind a => cases kind <;> rfl
  | _ => rfl

@[simp] theorem face_withAbout_modified (n : Node) (time : Time) :
    (n.withAbout { n.about with modified := time }).face = n.face := by
  cases n <;> rfl

@[simp] theorem get?_nil (n : Node) : n.get? [] = some n := by
  cases n <;> rfl

/-- The directories on the way lead to a node one after another. -/
theorem get?_append (n : Node) (p q : List String) :
    n.get? (p ++ q) = (n.get? p).bind fun m => m.get? q := by
  induction p generalizing n with
  | nil => simp
  | cons name p ih =>
    cases n with
    | directory es a =>
      cases hchild : child? name es with
      | none => simp [get?, hchild]
      | some child => simp [get?, hchild, ih]
    | _ => rfl

/-- Only in a directory something can stand. -/
theorem exists_directory_of_get?_cons {n m : Node} {name : String} {p : List String}
    (h : n.get? (name :: p) = some m) :
    ∃ es a child, n = .directory es a ∧ child? name es = some child ∧ child.get? p = some m := by
  cases n with
  | directory es a =>
    obtain ⟨child, hchild, hm⟩ := Option.bind_eq_some_iff.mp h
    exact ⟨es, a, child, rfl, hchild, hm⟩
  | _ => cases h

theorem get?_cons_eq_none {n : Node} (h : n.face ≠ .directory) (name : String) (p : List String) :
    n.get? (name :: p) = none := by
  cases n <;> first | rfl | exact absurd rfl h

theorem exists_directory_of_face {n : Node} (h : n.face = .directory) :
    ∃ es a, n = .directory es a := by
  cases n <;> first | exact ⟨_, _, rfl⟩ | cases h

theorem child?_cons (name other : String) (n : Node) (es : List (String × Node)) :
    child? name ((other, n) :: es) = if other = name then some n else child? name es := by
  by_cases h : other = name <;> simp [child?, h]

theorem lastIdentity_child?_le {name : String} {child : Node} {es : List (String × Node)}
    (h : child? name es = some child) : child.lastIdentity ≤ lastEntryIdentity es := by
  induction es with
  | nil => cases h
  | cons e es ih =>
    obtain ⟨first, m⟩ := e
    rw [child?_cons] at h
    rw [lastEntryIdentity]
    split at h
    · rw [Option.some.inj h]
      exact Nat.le_max_left ..
    · exact Nat.le_trans (ih h) (Nat.le_max_right ..)

/-- No node has a greater number than the last one. -/
theorem identity_le_lastIdentity {root n : Node} {p : List String} (h : root.get? p = some n) :
    n.face.identity ≤ root.lastIdentity := by
  induction p generalizing root with
  | nil =>
    rw [get?_nil] at h
    obtain rfl := Option.some.inj h
    cases root <;> first | exact Nat.zero_le _ | exact Nat.le_refl _
  | cons name p ih =>
    obtain ⟨es, a, child, rfl, hchild, hn⟩ := exists_directory_of_get?_cons h
    exact Nat.le_trans (ih hn) (lastIdentity_child?_le hchild)

/-- An entry that is set is found under its name, and the others as before. -/
theorem child?_setEntry (name other : String) (n : Node) (es : List (String × Node)) :
    child? other (setEntry name n es) = if name = other then some n else child? other es := by
  induction es with
  | nil => simp [setEntry, child?]
  | cons e es ih =>
    obtain ⟨first, m⟩ := e
    by_cases hfirst : first = name
    · subst hfirst
      by_cases hother : first = other <;> simp [setEntry, child?_cons, hother]
    · by_cases hother : first = other
      · subst hother
        simp [setEntry, child?_cons, hfirst, Ne.symm hfirst]
      · simp [setEntry, child?_cons, hfirst, hother, ih]

/-- A node can be set at the root, and under any name of a directory. -/
def HasRoom (root : Node) (place : List String) : Prop :=
  ∀ above name, place = above ++ [name] → (root.get? above).map face = some .directory

theorem hasRoom_of_get? {root n : Node} {place : List String} (h : root.get? place = some n) :
    root.HasRoom place := by
  rintro above name rfl
  rw [get?_append] at h
  obtain ⟨m, hm, hn⟩ := Option.bind_eq_some_iff.mp h
  obtain ⟨es, a, -, rfl, -⟩ := exists_directory_of_get?_cons hn
  rw [hm]
  rfl

/-- Setting a node replaces what is seen at and below its place and nothing else. -/
theorem face_get?_set {root : Node} {place : List String} (h : root.HasRoom place) (new : Node)
    (p : List String) :
    ((root.set place new).get? p).map face =
      if place <+: p then (new.get? (p.drop place.length)).map face
      else (root.get? p).map face := by
  induction place generalizing root p with
  | nil => simp [set]
  | cons name place ih =>
    cases place with
    | nil =>
      obtain ⟨es, a, rfl⟩ := exists_directory_of_face (by simpa using h [] name rfl)
      cases p with
      | nil => rfl
      | cons other p =>
        by_cases hname : name = other <;>
          simp [set, get?, child?_setEntry, hname, List.cons_prefix_cons]
    | cons next place =>
      obtain ⟨es, a, child, rfl, hchild, hroom⟩ : ∃ es a child, root = .directory es a ∧
          child? name es = some child ∧ child.HasRoom (next :: place) := by
        obtain ⟨above, last, hlast⟩ :=
          (List.eq_nil_or_concat (next :: place)).resolve_left (List.cons_ne_nil _ _)
        obtain ⟨m, hm, -⟩ := Option.map_eq_some_iff.mp (h (name :: above) last (by simp [hlast]))
        obtain ⟨es, a, child, rfl, hchild, -⟩ := exists_directory_of_get?_cons hm
        refine ⟨es, a, child, rfl, hchild, fun above last hlast => ?_⟩
        simpa [get?, hchild] using h (name :: above) last (by simp [hlast])
      cases p with
      | nil => simp [set, hchild, face]
      | cons other p =>
        by_cases hname : name = other
        · subst hname
          simp [set, get?, hchild, child?_setEntry, List.cons_prefix_cons, ih hroom]
        · simp [set, get?, hchild, child?_setEntry, List.cons_prefix_cons, hname]

/-- What is seen does not change with a node that shows the same at and below its place. -/
theorem face_get?_set_same {root old new : Node} {place : List String}
    (h : root.get? place = some old)
    (hsame : ∀ p, (new.get? p).map face = (old.get? p).map face) (p : List String) :
    ((root.set place new).get? p).map face = (root.get? p).map face := by
  rw [face_get?_set (hasRoom_of_get? h)]
  split
  · rename_i hbelow
    obtain ⟨rest, rfl⟩ := hbelow
    rw [List.drop_left, hsame, get?_append, h]
    rfl
  · rfl

/-- Where nothing stood below, a node that is set with nothing below it is seen at its place
only. -/
theorem face_get?_set_leaf {root new : Node} {place : List String} (h : root.HasRoom place)
    (hold : ∀ name p, root.get? (place ++ name :: p) = none)
    (hnew : ∀ name p, new.get? (name :: p) = none) (p : List String) :
    ((root.set place new).get? p).map face =
      if p = place then some new.face else (root.get? p).map face := by
  rw [face_get?_set h]
  by_cases hbelow : place <+: p
  · obtain ⟨rest, rfl⟩ := hbelow
    cases rest with
    | nil => simp
    | cons name rest => simp [hold, hnew]
  · have hne : p ≠ place := fun he => hbelow (he ▸ List.prefix_rfl)
    simp [hbelow, hne]

/-- An entry is found replaced. -/
theorem child?_replaceEntries (k : Nat) (new : Node) (name : String)
    (es : List (String × Node)) :
    child? name (replaceEntries k new es) = (child? name es).map (replaceAll k new) := by
  induction es with
  | nil => rfl
  | cons e es ih =>
    obtain ⟨first, m⟩ := e
    rw [replaceEntries, child?_cons, child?_cons, ih]
    split <;> rfl

theorem replaceAll_of_face {n : Node} (h : n.face ≠ .directory) (k : Nat) (new : Node) :
    replaceAll k new n = if n.face.identity = k then new else n := by
  by_cases hk : n.face.identity = k
  · cases n <;> first
      | exact absurd rfl h
      | exact (if_pos (beq_iff_eq.mpr hk)).trans (if_pos hk).symm
  · cases n <;> first
      | exact absurd rfl h
      | exact (if_neg (mt beq_iff_eq.mp hk)).trans (if_neg hk).symm

/-- A node replaced under all of its names is seen wherever its number was seen. -/
theorem face_get?_replaceAll {new : Node} (hnew : new.face ≠ .directory) {k : Nat} (hk : k ≠ 0)
    (root : Node) (p : List String) :
    ((replaceAll k new root).get? p).map face =
      (root.get? p).map fun m => if m.face.identity = k then new.face else m.face := by
  induction p generalizing root with
  | nil =>
    by_cases hroot : root.face = .directory
    · obtain ⟨es, a, rfl⟩ := exists_directory_of_face hroot
      simp [replaceAll, face, Face.identity, Ne.symm hk]
    · rw [replaceAll_of_face hroot]
      by_cases hshared : root.face.identity = k <;> simp [hshared]
  | cons name p ih =>
    by_cases hroot : root.face = .directory
    · obtain ⟨es, a, rfl⟩ := exists_directory_of_face hroot
      rw [replaceAll, get?, get?, child?_replaceEntries]
      cases child? name es <;> simp [ih]
    · rw [replaceAll_of_face hroot, get?_cons_eq_none hroot]
      split
      · rw [get?_cons_eq_none hnew]
        rfl
      · rw [get?_cons_eq_none hroot]
        rfl

end Node

end CompileOrder
