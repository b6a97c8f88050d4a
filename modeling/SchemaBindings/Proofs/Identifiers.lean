import Mathlib.Data.List.Nodup
import SchemaBindings.Naming

/-!
# Identifiers of names

A name that starts with a low line or is reserved is escaped: its low lines at the start give way to one at the end,
after the stem. All other names stay. So two names become one identifier exactly if both are escaped and have one
stem, or one of them is the stem of the other with a low line after it (`safeIdentifier_eq_iff`).
-/

namespace SchemaBindings.Naming

/-! ### Escaped names -/

/-- The name without the low lines that it starts with. -/
def stem (name : String) : String := String.ofList (name.toList.dropWhile (· == '_'))

/-- Does the name start with a low line, or is it reserved? -/
def isEscaped (name : String) : Bool := name.toList.head? == some '_' || isKeyword name

theorem not_isKeyword_append (name : String) : isKeyword (name ++ "_") = false := by
  have hlast : ∀ word ∈ keywords, word.toList.getLast? ≠ some '_' := by decide +kernel
  rw [isKeyword, List.contains_eq_mem, decide_eq_false_iff_not]
  intro hmem
  exact hlast _ hmem (by simp)

theorem stem_of_head_ne {name : String} (h : name.toList.head? ≠ some '_') : stem name = name := by
  rw [← String.toList_inj, stem, String.toList_ofList]
  cases hname : name.toList with
  | nil => rfl
  | cons c cs =>
    have hc : (c == '_') = false := by simpa [hname] using h
    rw [List.dropWhile_cons_of_neg (by simp [hc])]

theorem head_stem_ne (name : String) : (stem name).toList.head? ≠ some '_' := by
  rw [stem, String.toList_ofList]
  intro h
  have := List.head?_dropWhile_not (· == '_') name.toList
  rw [h] at this
  cases this

/-- Only escaped names change, and what is left of them is the stem. -/
theorem safeIdentifier_eq (name : String) : safeIdentifier name = if isEscaped name then stem name ++ "_" else name := by
  by_cases hlow : name.toList.head? = some '_'
  · have hmoved : String.ofList (moveLowLines name.toList) = stem name ++ "_" := by
      rw [← String.toList_inj, String.toList_ofList]
      simp [moveLowLines, hlow, stem]
    have hescaped : isEscaped name = true := by simp [isEscaped, hlow]
    rw [safeIdentifier, hmoved, hescaped]
    simp [not_isKeyword_append]
  · have hmoved : String.ofList (moveLowLines name.toList) = name := by
      simp [moveLowLines, hlow]
    rw [safeIdentifier, hmoved, isEscaped, stem_of_head_ne hlow]
    simp [hlow]

theorem safeIdentifier_of_isEscaped {name : String} (h : isEscaped name = true) :
    safeIdentifier name = stem name ++ "_" := by
  rw [safeIdentifier_eq, if_pos h]

theorem safeIdentifier_of_not_isEscaped {name : String} (h : isEscaped name = false) : safeIdentifier name = name := by
  rw [safeIdentifier_eq, h]
  rfl

/-- An identifier stays as it is. -/
theorem safeIdentifier_safeIdentifier (name : String) : safeIdentifier (safeIdentifier name) = safeIdentifier name := by
  cases h : isEscaped name with
  | false => rw [safeIdentifier_of_not_isEscaped h, safeIdentifier_of_not_isEscaped h]
  | true =>
    rw [safeIdentifier_of_isEscaped h]
    cases hagain : isEscaped (stem name ++ "_") with
    | false => exact safeIdentifier_of_not_isEscaped hagain
    | true =>
      -- it ends in a low line, so it is not reserved; and it starts with one only if the stem is empty
      have hlow : (stem name ++ "_").toList.head? = some '_' := by
        simpa [isEscaped, not_isKeyword_append] using hagain
      have hempty : stem name = "" := by
        rw [← String.toList_eq_nil_iff]
        by_contra hne
        obtain ⟨c, cs, hcs⟩ := List.exists_cons_of_ne_nil hne
        have hhead := head_stem_ne name
        rw [String.toList_append, hcs] at hlow
        rw [hcs] at hhead
        exact hhead hlow
      rw [hempty]
      decide +kernel

/-! ### Names that meet -/

/-- Do the names become one identifier, if they differ? Both are escaped and have one stem, or one of them is the
escaped form of the other. -/
def Meets (x y : String) : Prop :=
  (isEscaped x = true ∧ isEscaped y = true ∧ stem x = stem y) ∨ (isEscaped x = true ∧ y = stem x ++ "_") ∨
    (isEscaped y = true ∧ x = stem y ++ "_")

instance (x y : String) : Decidable (Meets x y) := inferInstanceAs (Decidable (_ ∨ _ ∨ _))

/-- Names become one identifier exactly if they meet. -/
theorem safeIdentifier_eq_iff {x y : String} : safeIdentifier x = safeIdentifier y ↔ x = y ∨ Meets x y := by
  constructor
  · intro h
    cases hx : isEscaped x <;> cases hy : isEscaped y
    · rw [safeIdentifier_of_not_isEscaped hx, safeIdentifier_of_not_isEscaped hy] at h
      exact .inl h
    · rw [safeIdentifier_of_not_isEscaped hx, safeIdentifier_of_isEscaped hy] at h
      exact .inr (.inr (.inr ⟨hy, h⟩))
    · rw [safeIdentifier_of_isEscaped hx, safeIdentifier_of_not_isEscaped hy] at h
      exact .inr (.inr (.inl ⟨hx, h.symm⟩))
    · rw [safeIdentifier_of_isEscaped hx, safeIdentifier_of_isEscaped hy] at h
      exact .inr (.inl ⟨hx, hy, (String.append_left_inj "_").1 h⟩)
  · rintro (rfl | ⟨hx, hy, hstem⟩ | ⟨hx, rfl⟩ | ⟨hy, rfl⟩)
    · rfl
    · rw [safeIdentifier_of_isEscaped hx, safeIdentifier_of_isEscaped hy, hstem]
    · rw [← safeIdentifier_of_isEscaped hx, safeIdentifier_safeIdentifier]
    · rw [← safeIdentifier_of_isEscaped hy, safeIdentifier_safeIdentifier]

/-- Do no two of the names meet? -/
def KeptApart (names : List String) : Prop := names.Pairwise fun x y => ¬ Meets x y

instance (names : List String) : Decidable (KeptApart names) :=
  inferInstanceAs (Decidable (names.Pairwise fun x y => ¬ Meets x y))

/-- Identifiers are distinct exactly if the names are, and no two of them meet. -/
theorem nodup_map_safeIdentifier_iff {names : List String} :
    (names.map safeIdentifier).Nodup ↔ names.Nodup ∧ KeptApart names := by
  have hne {x y : String} : safeIdentifier x ≠ safeIdentifier y ↔ x ≠ y ∧ ¬ Meets x y := by
    rw [ne_eq, safeIdentifier_eq_iff, not_or]
  have hpairs : (names.map safeIdentifier).Nodup ↔ names.Pairwise fun x y => x ≠ y ∧ ¬ Meets x y :=
    List.pairwise_map.trans (List.Pairwise.iff fun _ _ => hne)
  exact hpairs.trans List.pairwise_and_iff

/-- Are the names distinct in snake case, and do no two of them meet there? -/
def MethodsApart (names : List String) : Prop := (names.map snakeCase).Nodup ∧ KeptApart (names.map snakeCase)

instance (names : List String) : Decidable (MethodsApart names) :=
  inferInstanceAs (Decidable ((names.map snakeCase).Nodup ∧ KeptApart (names.map snakeCase)))

/-- The names of methods are distinct exactly if the identifiers of their snake cases are. -/
theorem nodup_map_methodName_iff {names : List String} : (names.map methodName).Nodup ↔ MethodsApart names := by
  have hmap : names.map methodName = (names.map snakeCase).map safeIdentifier := by
    rw [List.map_map]
    exact List.map_congr_left fun name _ => by rw [methodName, Function.comp_apply]
  rw [hmap, nodup_map_safeIdentifier_iff, MethodsApart]

end SchemaBindings.Naming
