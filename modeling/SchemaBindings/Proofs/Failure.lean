import SchemaBindings.Proofs.Success

/-!
# What failure says

A sequence of steps fails with the failure of the first step that does.
-/

namespace SchemaBindings

variable {ε α β : Type}

/-- The failure of a step, if it fails. -/
def failure? : Except ε α → Option ε
  | .ok _ => none
  | .error e => some e

theorem failure?_eq_none_iff {x : Except ε α} : failure? x = none ↔ ∃ a, x = .ok a := by
  cases x <;> simp [failure?]

theorem failure?_eq_some_iff {x : Except ε α} {e : ε} : failure? x = some e ↔ x = .error e := by
  cases x <;> simp [failure?]

theorem bind_eq_error_iff {x : Except ε α} {f : α → Except ε β} {e : ε} :
    (x >>= f) = .error e ↔ x = .error e ∨ ∃ a, x = .ok a ∧ f a = .error e := by
  cases x with
  | error e' =>
    constructor
    · exact fun h => .inl (congrArg Except.error (Except.error.inj h))
    · rintro (h | ⟨a, ha, -⟩)
      · rw [Except.error.inj h]
        rfl
      · cases ha
  | ok a =>
    constructor
    · exact fun h => .inr ⟨a, rfl, h⟩
    · rintro (h | ⟨a', ha, h⟩)
      · cases h
      · rw [Except.ok.inj ha]
        exact h

theorem mapError_eq_error_iff {ε' : Type} {x : Except ε α} {f : ε → ε'} {e : ε'} :
    x.mapError f = .error e ↔ ∃ e', x = .error e' ∧ f e' = e := by
  cases x <;> simp [Except.mapError]

theorem mapError_eq_ok_iff {ε' : Type} {x : Except ε α} {f : ε → ε'} {a : α} : x.mapError f = .ok a ↔ x = .ok a := by
  cases x <;> simp [Except.mapError]

theorem failure?_bind_pure (x : Except ε α) (f : α → β) : failure? (x >>= fun a => pure (f a)) = failure? x := by
  cases x <;> rfl

theorem failure?_mapM (f : α → Except ε β) (l : List α) :
    failure? (l.mapM f) = l.findSome? fun a => failure? (f a) := by
  induction l with
  | nil => rfl
  | cons a l ih =>
    rw [List.mapM_cons, List.findSome?_cons, ← ih]
    cases h : f a with
    | error e => rfl
    | ok b => cases l.mapM f <;> rfl

/-- A sequence of steps fails exactly if it has a first step that does. -/
theorem mapM_eq_error_iff {f : α → Except ε β} {l : List α} {e : ε} : l.mapM f = .error e ↔
    ∃ before a after, l = before ++ a :: after ∧ (∀ b ∈ before, ∃ r, f b = .ok r) ∧ f a = .error e := by
  rw [← failure?_eq_some_iff, failure?_mapM, List.findSome?_eq_some_iff]
  simp only [failure?_eq_some_iff, failure?_eq_none_iff]
  exact exists_congr fun before => exists_congr fun a => exists_congr fun after => and_congr_right fun _ => and_comm

/-- A sequence of steps that fails has a first step that does. -/
theorem exists_of_mapM_eq_error {f : α → Except ε β} {l : List α} {e : ε} (h : l.mapM f = .error e) :
    ∃ before a after, l = before ++ a :: after ∧ (∀ b ∈ before, ∃ r, f b = .ok r) ∧ f a = .error e :=
  mapM_eq_error_iff.1 h

end SchemaBindings
