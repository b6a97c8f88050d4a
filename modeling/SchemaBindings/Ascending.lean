/-!
# Ascending lists

A finite set as the list of its elements in strictly ascending order.
-/

namespace SchemaBindings

/-- Puts an element into an ascending list, unless it is there. -/
def insertAscending {α : Type} [BEq α] (less : α → α → Bool) (x : α) : List α → List α
  | [] => [x]
  | y :: ys => if x == y then y :: ys else if less x y then x :: y :: ys else y :: insertAscending less x ys

/-- The elements of a list, each once, in ascending order. -/
def ascending {α : Type} [BEq α] (less : α → α → Bool) (xs : List α) : List α :=
  xs.foldr (insertAscending less) []

/-- Texts in the order of their code points, each once. -/
def ascendingTexts (texts : List String) : List String := ascending (fun a b => decide (a < b)) texts

end SchemaBindings
