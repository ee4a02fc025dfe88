import CompileOrder.World

/-!
# Steps and runs that succeed

Where something may fail, its success says that each of its parts succeeded, and with what. A
run hands on the world as well, and its parts succeed one after another.
-/

namespace CompileOrder

section
variable {ε ε' α β : Type}

/-- Where two steps succeed the first does, and the second from there. -/
theorem exists_of_bind_eq_ok {x : Except ε α} {f : α → Except ε β} {b : β}
    (h : x >>= f = .ok b) : ∃ a, x = .ok a ∧ f a = .ok b := by
  cases x with
  | error e => cases h
  | ok a => exact ⟨a, rfl, h⟩

/-- What every step keeps, a whole run keeps. -/
theorem foldlM_keeps {f : β → α → Except ε β} {P : β → Prop} {xs : List α}
    (hstep : ∀ b, ∀ x ∈ xs, ∀ b', P b → f b x = .ok b' → P b') {b b' : β} (hb : P b)
    (h : xs.foldlM f b = .ok b') : P b' := by
  induction xs generalizing b with
  | nil => exact Except.ok.inj h ▸ hb
  | cons x xs ih =>
    rw [List.foldlM_cons] at h
    obtain ⟨next, hx, hrest⟩ := exists_of_bind_eq_ok h
    exact ih (fun b y hy => hstep b y (List.mem_cons_of_mem x hy))
      (hstep b x List.mem_cons_self next hb hx) hrest

/-- Where every step gives a value, all of them give the list of these. -/
theorem mapM_eq_ok {f : α → Except ε β} {g : α → β} {xs : List α}
    (h : ∀ x ∈ xs, f x = .ok (g x)) : xs.mapM f = .ok (xs.map g) := by
  induction xs with
  | nil => rfl
  | cons x xs ih =>
    obtain ⟨hx, hxs⟩ := List.forall_mem_cons.mp h
    rw [List.mapM_cons, hx, ih hxs]
    rfl

/-- Naming a failure otherwise changes no success. -/
theorem mapError_eq_ok {x : Except ε α} {f : ε → ε'} {a : α} :
    x.mapError f = .ok a ↔ x = .ok a := by
  constructor
  · intro h
    cases x with
    | error e => cases h
    | ok b =>
      cases h
      rfl
  · rintro rfl
    rfl

end

namespace Run

variable {α β : Type} {w w' : World}

/-- A run in two parts succeeds when both parts do. -/
theorem bind_eq_ok {x : Run α} {f : α → Run β} {b : β} :
    (x >>= f).run.run w = (.ok b, w') ↔
      ∃ a between, x.run.run w = (.ok a, between) ∧ (f a).run.run between = (.ok b, w') := by
  rw [ExceptT.run_bind, StateT.run_bind]
  constructor
  · intro h
    cases hx : x.run.run w with
    | mk result between =>
      rw [hx] at h
      cases result with
      | error failure => cases h
      | ok a => exact ⟨a, between, rfl, h⟩
  · rintro ⟨a, between, hx, hf⟩
    rw [hx]
    exact hf

theorem query_eq_ok {f : FileTree → Except Failure α} {a : α} :
    (query f).run.run w = (.ok a, w') ↔ f w.tree = .ok a ∧ w' = w := by
  rw [query, bind_eq_ok]
  constructor
  · rintro ⟨now, between, hget, h⟩
    cases hget
    cases hf : f w.tree with
    | error failure =>
      rw [hf] at h
      cases h
    | ok b =>
      rw [hf] at h
      cases h
      exact ⟨rfl, rfl⟩
  · rintro ⟨hf, rfl⟩
    refine ⟨w', w', rfl, ?_⟩
    rw [hf]
    rfl

theorem changeTree_eq_ok {f : FileTree → FileTree} {u : Unit} :
    (changeTree f).run.run w = (.ok u, w') ↔ w' = { w with tree := f w.tree } := by
  constructor
  · intro h
    cases h
    rfl
  · rintro rfl
    rfl

theorem pure_eq_ok {a b : α} : (pure a : Run α).run.run w = (.ok b, w') ↔ a = b ∧ w' = w := by
  constructor
  · intro h
    cases h
    exact ⟨rfl, rfl⟩
  · rintro ⟨rfl, rfl⟩
    rfl

end Run

end CompileOrder
