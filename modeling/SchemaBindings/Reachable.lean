import SchemaBindings.Table

/-!
# Reachable names

A table whose values are lists of names is a directed graph; a name without an entry has no successors. `reachable`
lists what can be reached from a name in one step or more, on graphs of any shape.
-/

namespace SchemaBindings

variable {κ : Type} [DecidableEq κ]

/-- The names with an entry that have not been seen. -/
private def unseen (graph : Table κ (List κ)) (seen : List κ) : List κ := graph.keys.filter (!seen.contains ·)

private theorem length_filter_lt {α : Type} {p q : α → Bool} {x : α} {l : List α} (hx : x ∈ l) (hq : q x = true)
    (hp : p x = false) (h : ∀ y ∈ l, p y = true → q y = true) : (l.filter p).length < (l.filter q).length := by
  have hle : ∀ {m : List α}, (∀ y ∈ m, p y = true → q y = true) → (m.filter p).length ≤ (m.filter q).length := by
    intro m hm
    have : m.filter p = (m.filter q).filter p := by
      rw [List.filter_filter]
      refine List.filter_congr fun y hy => ?_
      cases hpy : p y
      · rfl
      · simp [hm y hy hpy]
    rw [this]
    exact List.length_filter_le _ _
  induction l with
  | nil => cases hx
  | cons a l ih =>
    have htail := fun y hy => h y (List.mem_cons_of_mem a hy)
    rcases List.mem_cons.1 hx with rfl | hx
    · have := hle htail
      simp [hp, hq]
      omega
    · have := ih hx htail
      cases hpa : p a
      · cases hqa : q a <;> simp [hpa, hqa] <;> omega
      · simp [hpa, h a List.mem_cons_self hpa]
        omega

private theorem unseen_cons_le (graph : Table κ (List κ)) (seen : List κ) (name : κ) :
    (unseen graph (name :: seen)).length ≤ (unseen graph seen).length := by
  have : unseen graph (name :: seen) = (unseen graph seen).filter (!(name :: seen).contains ·) := by
    simp only [unseen, List.filter_filter]
    refine List.filter_congr fun y _ => ?_
    simp only [List.contains_cons]
    cases y == name <;> cases seen.contains y <;> rfl
  rw [this]
  exact List.length_filter_le _ _

private theorem unseen_cons_lt {graph : Table κ (List κ)} {seen : List κ} {name : κ} {successors : List κ}
    (hseen : seen.contains name = false) (hfind : graph.find? name = some successors) :
    (unseen graph (name :: seen)).length < (unseen graph seen).length := by
  refine length_filter_lt (Table.mem_keys_of_find? hfind) (by rw [hseen]; rfl) (by simp) fun y _ hy => ?_
  simp only [List.contains_cons, Bool.not_or, Bool.and_eq_true] at hy
  exact hy.2

/-- The names seen before, and those reached from the pending ones. Each step meets a name that has been seen, or
marks one; only then are its successors pending. -/
def reachedFrom (graph : Table κ (List κ)) (pending seen : List κ) : List κ :=
  match pending with
  | [] => seen
  | name :: rest =>
    if _hseen : seen.contains name then reachedFrom graph rest seen
    else match _hfind : graph.find? name with
      | none => reachedFrom graph rest (name :: seen)
      | some successors => reachedFrom graph (successors ++ rest) (name :: seen)
termination_by ((unseen graph seen).length, pending.length)
decreasing_by
  · exact Prod.Lex.right _ (by simp)
  · rcases Nat.lt_or_eq_of_le (unseen_cons_le graph seen name) with h | h
    · exact Prod.Lex.left _ _ h
    · rw [h]; exact Prod.Lex.right _ (by simp)
  · exact Prod.Lex.left _ _ (unseen_cons_lt (by simpa using _hseen) _hfind)

/-- The names reached from a name in one step or more, each once. -/
def reachable (graph : Table κ (List κ)) (name : κ) : List κ :=
  reachedFrom graph ((graph.find? name).getD []) []

end SchemaBindings
