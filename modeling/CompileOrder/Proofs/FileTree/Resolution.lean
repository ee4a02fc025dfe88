import CompileOrder.Proofs.FileTree.Places
import CompileOrder.Proofs.Runs

/-!
# Where a path leads

Names lead from place to place, and each link that is followed counts. This relation does
not depend on how many links may be followed, and it is what following a path with some
number of links computes. It only asks for the kinds of the nodes on the way; so a path that
leads somewhere leads to the same place in every tree that has kept these nodes, whatever
was added and however often files were written. The place that a file to be written is
opened at, links at the end of its path followed, is where its path leads afterwards.
-/

namespace CompileOrder.FileTree

variable {t t' t'' : FileTree} {place next out : List String} {name path : String}

/-- The face of the node at a place. -/
def seen (t : FileTree) (place : List String) : Option Face := (t.root.get? place).map Node.face

/-- One step leads to the directory itself, to the one above, or to an entry. -/
theorem step_eq_ok : t.step place name = .ok next ↔
    t.seen place = some .directory ∧
      (name = "." ∧ next = place ∨ name ≠ "." ∧ name = ".." ∧ next = place.dropLast ∨
        name ≠ "." ∧ name ≠ ".." ∧ name.utf8ByteSize ≤ maxName ∧
          (t.seen (place ++ [name])).isSome = true ∧ next = place ++ [name]) := by
  rw [step, seen, seen, Node.get?_append]
  cases t.root.get? place with
  | none => simp
  | some n =>
    by_cases hn : n.face = .directory
    · obtain ⟨es, a, rfl⟩ := Node.exists_directory_of_face hn
      have hentry : (((Node.directory es a).get? [name]).map Node.face).isSome =
          (child? name es).isSome := by
        cases hchild : child? name es <;> simp [Node.get?, hchild]
      simp only [Option.map_some, Option.bind_some, hn, hentry, true_and]
      by_cases hhere : name = "."
      · simp [hhere, @eq_comm _ place next]
      · by_cases habove : name = ".."
        · simp [habove, @eq_comm _ place.dropLast next]
        · by_cases hlong : maxName < name.utf8ByteSize
          · simp [hhere, habove, hlong, Nat.not_le.mpr hlong]
          · cases hchild : (child? name es).isSome with
            | true =>
              simp [hhere, habove, hlong, Nat.not_lt.mp hlong, @eq_comm _ (place ++ [name]) next]
            | false => simp [hhere, habove, hlong]
    · cases n <;> first | exact absurd rfl hn | simp [Node.face]

/-- A step leads to something that is there. -/
theorem exists_of_step (hstep : t.step place name = .ok next) :
    ∃ face, t.seen next = some face := by
  obtain ⟨hplace, ⟨-, rfl⟩ | ⟨-, -, rfl⟩ | ⟨-, -, -, hentry, rfl⟩⟩ := step_eq_ok.mp hstep
  · exact ⟨_, hplace⟩
  · rcases List.eq_nil_or_concat place with rfl | ⟨above, last, rfl⟩
    · exact ⟨_, hplace⟩
    · rw [List.concat_eq_append, seen, Node.get?_append] at hplace
      obtain ⟨n, hn, -⟩ := Option.map_eq_some_iff.mp hplace
      obtain ⟨m, hm, -⟩ := Option.bind_eq_some_iff.mp hn
      rw [List.concat_eq_append, List.dropLast_concat, seen, hm]
      exact ⟨_, rfl⟩
  · exact Option.isSome_iff_exists.mp hentry

/-- Names lead from a place to another one over a number of links. -/
inductive Leads (t : FileTree) : Nat → List String → List String → List String → Prop
  /-- No names lead nowhere else. -/
  | here (place : List String) : Leads t 0 place [] place
  /-- A name of something other than a link. -/
  | enter {links : Nat} {place next out : List String} {name : String} {rest : List String} :
    t.step place name = .ok next → (∀ target k, t.seen next ≠ some (.link target k)) →
    Leads t links next rest out → Leads t links place (name :: rest) out
  /-- A name of a link; its target starts at the root or where the link stands. -/
  | jump {links : Nat} {place next out : List String} {name target : String} {k : Nat}
    {rest : List String} :
    t.step place name = .ok next → t.seen next = some (.link target k) →
    Leads t links (if Path.isAbsolute target then [] else place) (targetNames target ++ rest) out →
    Leads t (links + 1) place (name :: rest) out

namespace Leads

variable {links : Nat} {names rest : List String}

/-- Names lead to one place, over one number of links. -/
theorem unique {links' : Nat} {out' : List String} (h : Leads t links place names out)
    (h' : Leads t links' place names out') : links' = links ∧ out' = out := by
  induction h generalizing links' with
  | here =>
    cases h'
    exact ⟨rfl, rfl⟩
  | enter hstep hnode _ ih =>
    cases h' with
    | enter hstep' _ h' =>
      obtain rfl := Except.ok.inj (hstep.symm.trans hstep')
      exact ih h'
    | jump hstep' hlink _ =>
      obtain rfl := Except.ok.inj (hstep.symm.trans hstep')
      exact absurd hlink (hnode _ _)
  | jump hstep hlink _ ih =>
    cases h' with
    | enter hstep' hnode _ =>
      obtain rfl := Except.ok.inj (hstep.symm.trans hstep')
      exact absurd hlink (hnode _ _)
    | jump hstep' hlink' h' =>
      obtain rfl := Except.ok.inj (hstep.symm.trans hstep')
      obtain ⟨rfl, -⟩ := Face.link.inj (Option.some.inj (hlink.symm.trans hlink'))
      obtain ⟨rfl, rfl⟩ := ih h'
      exact ⟨rfl, rfl⟩

/-- Names lead on from where the names before them led. -/
theorem append {links' : Nat} (h : Leads t links place names next)
    (h' : Leads t links' next rest out) : Leads t (links + links') place (names ++ rest) out := by
  induction h with
  | here => simpa using h'
  | enter hstep hnode _ ih => exact .enter hstep hnode (ih h')
  | jump hstep hlink _ ih =>
    rw [Nat.add_right_comm]
    exact .jump hstep hlink (by simpa using ih h')

end Leads

section

variable {jump : List String → List String → Except FileFault (List String)} {rest : List String}

/-- The name of something other than a link. -/
theorem walkWith_enter (hstep : t.step place name = .ok next)
    (hnode : ∀ target k, t.seen next ≠ some (.link target k)) :
    t.walkWith true jump place (name :: rest) = t.walkWith true jump next rest := by
  rw [walkWith, hstep]
  dsimp only
  split
  · rename_i target a hlink
    exact absurd (by simp [seen, hlink, Node.face]) (hnode target a.identity)
  · rfl

/-- The name of a link. -/
theorem walkWith_jump {target : String} {k : Nat} (hstep : t.step place name = .ok next)
    (hlink : t.seen next = some (.link target k)) :
    t.walkWith true jump place (name :: rest) =
      jump (if Path.isAbsolute target then [] else place) (targetNames target ++ rest) := by
  obtain ⟨n, hn, hface⟩ := Option.map_eq_some_iff.mp hlink
  rw [walkWith, hstep]
  cases n <;> cases hface
  simp [hn]

/-- What is found by following names, if what is found past a link is right. -/
theorem leads_of_walkWith {links : Nat} {names : List String}
    (hjump : ∀ place names out, jump place names = .ok out →
      ∃ used < links, Leads t used place names out)
    (h : t.walkWith true jump place names = .ok out) :
    ∃ used ≤ links, Leads t used place names out := by
  induction names generalizing place with
  | nil =>
    obtain rfl := Except.ok.inj h
    exact ⟨0, Nat.zero_le links, .here place⟩
  | cons name rest ih =>
    cases hstep : t.step place name with
    | error fault =>
      rw [walkWith, hstep] at h
      cases h
    | ok next =>
      by_cases hlink : ∃ target k, t.seen next = some (.link target k)
      · obtain ⟨target, k, hlink⟩ := hlink
        rw [walkWith_jump hstep hlink] at h
        obtain ⟨used, hused, hleads⟩ := hjump _ _ _ h
        exact ⟨used + 1, hused, .jump hstep hlink hleads⟩
      · have hnode : ∀ target k, t.seen next ≠ some (.link target k) :=
          fun target k he => hlink ⟨target, k, he⟩
        rw [walkWith_enter hstep hnode] at h
        obtain ⟨used, hused, hleads⟩ := ih h
        exact ⟨used, hused, .enter hstep hnode hleads⟩

end

/-- Following names with some links left leads where the names lead over no more links. -/
theorem walk_eq_ok {links : Nat} {names : List String} :
    t.walk true links place names = .ok out ↔ ∃ used ≤ links, Leads t used place names out := by
  constructor
  · intro h
    induction links generalizing place names out with
    | zero => exact leads_of_walkWith (fun _ _ _ hjump => by cases hjump) h
    | succ links ih =>
      refine leads_of_walkWith (fun place names out hjump => ?_) h
      obtain ⟨used, hused, hleads⟩ := ih hjump
      exact ⟨used, Nat.lt_succ_of_le hused, hleads⟩
  · rintro ⟨used, hused, h⟩
    induction h generalizing links with
    | here => cases links <;> rfl
    | enter hstep hnode _ ih =>
      rw [← ih hused]
      cases links <;> exact walkWith_enter hstep hnode
    | jump hstep hlink _ ih =>
      cases links with
      | zero => cases hused
      | succ links =>
        rw [← ih (Nat.le_of_succ_le_succ hused)]
        exact walkWith_jump hstep hlink

/-- A path leads to the place that its names lead to, to a directory if it ends with a slash. -/
theorem locate_eq_ok : t.locate path = .ok place ↔
    checkPath path = .ok () ∧
      (∃ used ≤ maxLinks, Leads t used (t.startOf path) (Path.names path) place) ∧
      ∃ face, t.seen place = some face ∧ (Path.endsWithSlash path = true → face = .directory) := by
  rw [locate, locateBy, Bool.true_or]
  cases hcheck : checkPath path with
  | error fault => simp [bind, Except.bind]
  | ok u =>
    simp only [bind, Except.bind, true_and]
    constructor
    · intro h
      cases hwalk : t.walk true maxLinks (t.startOf path) (Path.names path) with
      | error fault => simp [hwalk] at h
      | ok there =>
        simp only [hwalk] at h
        have hleads := walk_eq_ok.mp hwalk
        split at h
        · cases h
        · rename_i es a hnode
          obtain rfl := Except.ok.inj h
          exact ⟨hleads, .directory, by rw [seen, hnode]; rfl, fun _ => rfl⟩
        · rename_i n _ hnode
          split at h
          · cases h
          · rename_i hends
            obtain rfl := Except.ok.inj h
            exact ⟨hleads, n.face, by rw [seen, hnode]; rfl, fun he => absurd he hends⟩
    · rintro ⟨hleads, face, hface, hslash⟩
      obtain ⟨n, hn, rfl⟩ := Option.map_eq_some_iff.mp hface
      simp only [walk_eq_ok.mpr hleads, hn]
      by_cases hnode : n.face = .directory
      · obtain ⟨es, a, rfl⟩ := Node.exists_directory_of_face hnode
        rfl
      · have hends : Path.endsWithSlash path = false :=
          Bool.eq_false_iff.mpr fun he => hnode (hslash he)
        cases n <;> first | exact absurd rfl hnode | simp [hends]

theorem find_eq_ok {n : Node} : t.find path = .ok n ↔
    ∃ place, t.locate path = .ok place ∧ t.root.get? place = some n := by
  rw [find]
  cases t.locate path with
  | error fault => simp [bind, Except.bind]
  | ok place =>
    simp only [bind, Except.bind, node, Except.ok.injEq, exists_eq_left']
    cases t.root.get? place <;> simp

theorem holds_iff : t.holds path = true ↔
    ∃ place face, t.locate path = .ok place ∧ t.seen place = some face := by
  rw [holds]
  constructor
  · intro h
    cases hfind : t.find path with
    | error fault => simp [hfind] at h
    | ok n =>
      obtain ⟨place, hplace, hn⟩ := find_eq_ok.mp hfind
      exact ⟨place, n.face, hplace, by rw [seen, hn]; rfl⟩
  · rintro ⟨place, face, hplace, hface⟩
    obtain ⟨n, hn, -⟩ := Option.map_eq_some_iff.mp hface
    rw [find_eq_ok.mpr ⟨place, hplace, hn⟩]

theorem isFile_iff : t.isFile path = true ↔
    ∃ place bytes k, t.locate path = .ok place ∧ t.seen place = some (.file bytes k) := by
  rw [isFile]
  constructor
  · intro h
    cases hfind : t.find path with
    | error fault => simp [hfind] at h
    | ok n =>
      obtain ⟨place, hplace, hn⟩ := find_eq_ok.mp hfind
      rw [hfind] at h
      cases n with
      | file bytes a => exact ⟨place, bytes, a.identity, hplace, by rw [seen, hn]; rfl⟩
      | _ => cases h
  · rintro ⟨place, bytes, k, hplace, hface⟩
    obtain ⟨n, hn, hface⟩ := Option.map_eq_some_iff.mp hface
    rw [find_eq_ok.mpr ⟨place, hplace, hn⟩]
    cases n <;> first | rfl | cases hface

/-- What a path leads to is read. -/
theorem read_eq_ok {bytes : Text.Bytes} : t.read path = .ok bytes ↔
    ∃ place face, t.locate path = .ok place ∧ t.seen place = some face ∧
      face.read = .ok bytes := by
  rw [read]
  constructor
  · intro h
    cases hfind : t.find path with
    | error fault =>
      rw [hfind] at h
      cases h
    | ok n =>
      rw [hfind] at h
      obtain ⟨place, hplace, hn⟩ := find_eq_ok.mp hfind
      exact ⟨place, n.face, hplace, by rw [seen, hn]; rfl, n.readNode_eq ▸ h⟩
  · rintro ⟨place, face, hplace, hface, hread⟩
    obtain ⟨n, hn, rfl⟩ := Option.map_eq_some_iff.mp hface
    rw [find_eq_ok.mpr ⟨place, hplace, hn⟩]
    exact n.readNode_eq.trans hread

/-- Whatever stands in one tree stands in the other one, with the same kind. -/
structure Extends (t t' : FileTree) : Prop where
  /-- Relative paths start where they started. -/
  workingDirectory : t'.workingDirectory = t.workingDirectory
  /-- Every node keeps its kind. -/
  kind : ∀ place face, t.seen place = some face → (t'.seen place).map Face.kind = some face.kind

namespace Extends

theorem trans (h : Extends t t') (h' : Extends t' t'') : Extends t t'' where
  workingDirectory := h'.workingDirectory.trans h.workingDirectory
  kind place face hface := by
    obtain ⟨face', hface', hkind⟩ := Option.map_eq_some_iff.mp (h.kind place face hface)
    rw [h'.kind place face' hface', hkind]

theorem directory (h : Extends t t') (hplace : t.seen place = some .directory) :
    t'.seen place = some .directory := by
  obtain ⟨face, hface, hkind⟩ := Option.map_eq_some_iff.mp (h.kind place _ hplace)
  rw [hface, Face.eq_directory_of_kind hkind]

theorem link (h : Extends t t') {target : String} {k : Nat}
    (hplace : t.seen place = some (.link target k)) : t'.seen place = some (.link target k) := by
  obtain ⟨face, hface, hkind⟩ := Option.map_eq_some_iff.mp (h.kind place _ hplace)
  rw [hface, Face.eq_link_of_kind hkind]

theorem isSome (h : Extends t t') (hplace : (t.seen place).isSome = true) :
    (t'.seen place).isSome = true := by
  obtain ⟨face, hface⟩ := Option.isSome_iff_exists.mp hplace
  obtain ⟨face', hface', -⟩ := Option.map_eq_some_iff.mp (h.kind place face hface)
  rw [hface']
  rfl

/-- A step leads where it led. -/
theorem step (h : Extends t t') (hstep : t.step place name = .ok next) :
    t'.step place name = .ok next := by
  obtain ⟨hplace, hnext⟩ := step_eq_ok.mp hstep
  refine step_eq_ok.mpr ⟨h.directory hplace, ?_⟩
  rcases hnext with hhere | habove | ⟨hhere, habove, hshort, hentry, hnext⟩
  · exact Or.inl hhere
  · exact Or.inr (Or.inl habove)
  · exact Or.inr (Or.inr ⟨hhere, habove, hshort, h.isSome hentry, hnext⟩)

/-- Names lead where they led. -/
theorem leads (h : Extends t t') {links : Nat} {names : List String}
    (hleads : Leads t links place names out) : Leads t' links place names out := by
  induction hleads with
  | here place => exact .here place
  | enter hstep hnode _ ih =>
    refine .enter (h.step hstep) (fun target k hlink => ?_) ih
    obtain ⟨face, hface⟩ := exists_of_step hstep
    have hkind := h.kind _ face hface
    rw [hlink] at hkind
    have hface' := Face.eq_link_of_kind (Option.some.inj hkind).symm
    exact hnode target k (hface'.symm ▸ hface)
  | jump hstep hlink _ ih => exact .jump (h.step hstep) (h.link hlink) ih

/-- A path leads where it led. -/
theorem locate (h : Extends t t') (hpath : t.locate path = .ok place) :
    t'.locate path = .ok place := by
  obtain ⟨hcheck, ⟨used, hused, hleads⟩, face, hface, hslash⟩ := locate_eq_ok.mp hpath
  obtain ⟨face', hface', hkind⟩ := Option.map_eq_some_iff.mp (h.kind place face hface)
  refine locate_eq_ok.mpr ⟨hcheck, ⟨used, hused, ?_⟩, face', hface', fun hends => ?_⟩
  · rw [startOf, h.workingDirectory]
    exact h.leads hleads
  · rw [hslash hends] at hkind
    exact Face.eq_directory_of_kind hkind

end Extends

/-- A name that an entry can have, in the directory that the names before it lead to. -/
structure LastName (t : FileTree) (start names place : List String) (name : String) : Prop where
  /-- The names before it lead to the directory. -/
  leads : ∃ first used, names = first ++ [name] ∧ Leads t used start first place
  /-- There is a directory. -/
  directory : t.seen place = some .directory
  /-- The name is not the one of the directory itself. -/
  ne_here : name ≠ "."
  /-- The name is not the one of the directory above. -/
  ne_above : name ≠ ".."
  /-- The name is not too long. -/
  short : name.utf8ByteSize ≤ maxName

theorem lastOf_some {start names : List String}
    (h : t.lastOf start names = .ok (place, some name)) :
    LastName t start names place name := by
  obtain ⟨there, hwalk, hfound⟩ := exists_of_bind_eq_ok h
  split at hfound
  · simp [pure, Except.pure] at hfound
  · rename_i last hlast
    split at hfound
    · rename_i es a hdirectory
      split at hfound
      · simp [pure, Except.pure] at hfound
      · rename_i hdots
        split at hfound
        · cases hfound
        · rename_i hlong
          obtain ⟨rfl, rfl⟩ : there = place ∧ last = name := by
            simpa [pure, Except.pure] using hfound
          obtain ⟨used, -, hleads⟩ := walk_eq_ok.mp hwalk
          have hnames : names = names.dropLast ++ [last] :=
            (List.dropLast_append_getLast? last hlast).symm
          simp only [Bool.or_eq_true, beq_iff_eq, not_or] at hdots
          exact ⟨⟨_, used, hnames, hleads⟩, by rw [seen, hdirectory]; rfl, hdots.1, hdots.2,
            Nat.le_of_not_lt hlong⟩
    · cases hfound

theorem LastName.step {start names : List String} (h : LastName t start names place name)
    (hext : Extends t t') (hthere : (t'.seen (place ++ [name])).isSome = true) :
    t'.step place name = .ok (place ++ [name]) :=
  step_eq_ok.mpr ⟨hext.directory h.directory, Or.inr (Or.inr
    ⟨h.ne_here, h.ne_above, h.short, hthere, rfl⟩)⟩

/-- A file that is to be opened stands in a directory, and once it is there its names lead to
it: this is so in every tree that keeps the nodes of the one it was looked for in. -/
theorem leads_of_lastFollowing {links : Nat} {start names : List String}
    (h : t.lastFollowing links start names = .ok (place, some name)) :
    t.seen place = some .directory ∧
      (∀ target k, t.seen (place ++ [name]) ≠ some (.link target k)) ∧
      ∀ t' face, Extends t t' → t'.seen (place ++ [name]) = some face →
        (∀ target k, face ≠ .link target k) →
        ∃ used, Leads t' used start names (place ++ [name]) := by
  induction links generalizing start names with
  | zero => cases h
  | succ links ih =>
    obtain ⟨⟨above, name?⟩, hlast, hfound⟩ := exists_of_bind_eq_ok h
    cases name? with
    | none => simp [pure, Except.pure] at hfound
    | some last =>
      have hnames := lastOf_some hlast
      obtain ⟨first, used, rfl, hleads⟩ := hnames.leads
      simp only at hfound
      split at hfound
      · rename_i target a hlink
        have hseen : t.seen (above ++ [last]) = some (.link target a.identity) := by
          rw [seen, hlink]
          rfl
        obtain ⟨hdirectory, hend, hleads'⟩ := ih hfound
        refine ⟨hdirectory, hend, fun t' face hext hthere hnode => ?_⟩
        have hlink' := hext.link hseen
        have hstep := hnames.step hext (by rw [hlink']; rfl)
        obtain ⟨used', hleads'⟩ := hleads' t' face hext hthere hnode
        exact ⟨_, (hext.leads hleads).append (.jump hstep hlink' (by simpa using hleads'))⟩
      · rename_i hend
        obtain ⟨rfl, rfl⟩ : above = place ∧ last = name := by
          simpa [pure, Except.pure] using hfound
        refine ⟨hnames.directory, fun target k hlink => ?_, fun t' face hext hthere hnode => ?_⟩
        · obtain ⟨n, hn, hface⟩ := Option.map_eq_some_iff.mp hlink
          cases n <;> first | exact hend _ _ hn | cases hface
        · have hstep := hnames.step hext (by rw [hthere]; rfl)
          have hnolink : ∀ target k, t'.seen (above ++ [last]) ≠ some (.link target k) :=
            fun target k hlink => hnode target k (Option.some.inj (hthere.symm.trans hlink))
          exact ⟨_, (hext.leads hleads).append (.enter hstep hnolink (.here _))⟩

end CompileOrder.FileTree
