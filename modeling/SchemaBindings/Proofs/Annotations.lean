import Mathlib.Data.List.Infix
import SchemaBindings.Reference

/-!
# Annotations and their levels

The annotation of a reference puts lists and nulls around a target that may be any text, even one that looks like an
annotation itself. Still it tells the levels (`annotation_eq_iff`): what stands behind the target closes as many lists
as are opened before it. Of two texts that end alike, the one with more lists would have the shorter end, but an end
with fewer closing brackets in it; so both open the same number of lists, and their ends, which are read from the right
without doubt, are the same.
-/

namespace SchemaBindings.Reference

/-! ### Texts before and behind the target -/

/-- What is added behind a type that may be null. -/
def nullMark (required : Bool) : List Char := if required then [] else " | None".toList

/-- What stands before the target inside some lists. -/
def opening (depth : Nat) : List Char := (List.replicate depth "list[".toList).flatten

/-- What stands behind the target: on each level of lists the null of an item and a bracket, from the innermost level
to the outermost, and at the end the null of the whole. -/
def closing : Bool → List Bool → List Char
  | required, [] => nullMark required
  | required, itemRequired :: items => closing itemRequired items ++ ']' :: nullMark required

theorem length_opening (depth : Nat) : (opening depth).length = 5 * depth := by
  simp [opening, Nat.mul_comm]

private theorem toList_optionalText (required : Bool) (text : String) :
    (optionalText required text).toList = text.toList ++ nullMark required := by
  cases required <;> simp [optionalText, nullMark]

private theorem toList_levels (target : String) (required : Bool) (items : List Bool) :
    (optionalText required (listText items target)).toList =
      opening items.length ++ target.toList ++ closing required items := by
  induction items generalizing required with
  | nil => exact toList_optionalText required target
  | cons itemRequired items ih =>
    rw [toList_optionalText, listText, String.toList_append, String.toList_append, ih]
    simp [opening, closing, List.replicate_succ]

/-- The text of an annotation: what opens the lists, the target, and what closes the lists. -/
theorem toList_annotation (r : Reference) : r.annotation.toList =
    opening r.itemsRequired.length ++ r.target.toList ++ closing r.required r.itemsRequired :=
  toList_levels r.target r.required r.itemsRequired

/-! ### Reading the end of an annotation -/

theorem count_closing (required : Bool) (items : List Bool) : (closing required items).count ']' = items.length := by
  have hnull (required : Bool) : (nullMark required).count ']' = 0 := by cases required <;> decide
  induction items generalizing required with
  | nil => exact hnull required
  | cons itemRequired items ih => simp [closing, ih, hnull]

/-- The last letter tells whether the whole may be null. -/
private theorem getLast?_closing (required : Bool) (items : List Bool) :
    (closing required items).getLast? = some 'e' ↔ required = false := by
  cases required <;> cases items <;> simp [closing, nullMark]

private theorem required_eq_of_closing {required required' : Bool} {items items' : List Bool}
    (h : closing required items = closing required' items') : required = required' := by
  have hiff : required = false ↔ required' = false := by
    rw [← getLast?_closing required items, h, getLast?_closing]
  rwa [Bool.eq_iff_iff, ← not_iff_not, Bool.not_eq_true, Bool.not_eq_true]

/-- The end of an annotation is read from the right, level by level. -/
theorem closing_inj {required required' : Bool} {items items' : List Bool} :
    closing required items = closing required' items' ↔ required = required' ∧ items = items' := by
  refine ⟨fun h => ?_, fun ⟨hr, hi⟩ => by rw [hr, hi]⟩
  obtain rfl := required_eq_of_closing h
  refine ⟨rfl, ?_⟩
  induction items generalizing required items' with
  | nil =>
    cases items' with
    | nil => rfl
    | cons itemRequired' items' =>
      have hlength := congrArg List.length h
      simp only [closing, List.length_append, List.length_cons] at hlength
      omega
  | cons itemRequired items ih =>
    cases items' with
    | nil =>
      have hlength := congrArg List.length h
      simp only [closing, List.length_append, List.length_cons] at hlength
      omega
    | cons itemRequired' items' =>
      have hitem := List.append_cancel_right h
      obtain rfl := required_eq_of_closing hitem
      rw [ih hitem]

/-! ### The levels of an annotation -/

/-- An end that is part of the other has no more brackets than that, but behind texts of equal length no fewer. -/
private theorem closing_eq_of_suffix {target : List Char} {required required' : Bool} {items items' : List Bool}
    (h : opening items.length ++ target ++ closing required items =
      opening items'.length ++ target ++ closing required' items')
    (hsuffix : closing required items <:+ closing required' items') :
    closing required items = closing required' items' := by
  have hdepth : items.length ≤ items'.length := by
    rw [← count_closing required, ← count_closing required']
    exact hsuffix.sublist.count_le _
  have hlength := congrArg List.length h
  simp only [List.length_append, length_opening] at hlength
  have hle := hsuffix.length_le
  exact hsuffix.eq_of_length (by omega)

/-- Around one target, annotations are the same only if all their levels are. -/
theorem annotation_eq_iff {r r' : Reference} (htarget : r.target = r'.target) :
    r.annotation = r'.annotation ↔ r.required = r'.required ∧ r.itemsRequired = r'.itemsRequired := by
  rw [← String.toList_inj, toList_annotation, toList_annotation, htarget, ← closing_inj]
  constructor
  · intro h
    have hend : closing r.required r.itemsRequired <:+
        opening r'.itemsRequired.length ++ r'.target.toList ++ closing r'.required r'.itemsRequired :=
      h ▸ List.suffix_append _ _
    rcases List.suffix_or_suffix_of_suffix hend (List.suffix_append _ _) with hsuffix | hsuffix
    · exact closing_eq_of_suffix h hsuffix
    · exact (closing_eq_of_suffix h.symm hsuffix).symm
  · intro h
    rw [h, (closing_inj.1 h).2]

/-- Six nulls are as long as seven lists, and the target looks like an annotation itself; but the annotations of five
lists that may all be null, and of twelve lists of which none may be, are not the same. -/
theorem annotation_ne_of_depth :
    let r : Reference := { schemaName := "Rows", target := "list[list[int] | None] | None", origin := .expression []
                           required := false, itemsRequired := List.replicate 5 false }
    let r' : Reference := { r with required := true, itemsRequired := List.replicate 12 true }
    r.target = r'.target ∧ r.annotation.length = r'.annotation.length ∧ r.annotation ≠ r'.annotation := by
  intro r r'
  have htarget : r.target = r'.target := rfl
  refine ⟨htarget, by decide +kernel, fun h => ?_⟩
  exact absurd ((annotation_eq_iff htarget).1 h).1 (by decide)

end SchemaBindings.Reference
