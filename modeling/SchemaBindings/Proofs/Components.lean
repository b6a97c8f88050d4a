import SchemaBindings.Proofs.Locations
import SchemaBindings.Proofs.Lookup
import SchemaBindings.Proofs.SnakeCase

/-!
# Components of targets

The chains in a target consist of components, which have no dots. So a dotted name ends in a nonempty name, and no
module that a target mentions ends in a dot.
-/

namespace SchemaBindings.Target

/-- An ASCII letter or low line, and word characters after it. -/
def IsComponent (cs : List Char) : Prop :=
  ∃ c word, cs = c :: word ∧ Text.isNameStart c = true ∧ ∀ x ∈ word, Text.isWord x = true

theorem isWord_of_isNameStart {c : Char} (h : Text.isNameStart c = true) : Text.isWord c = true := by
  have hname : Text.isNameChar c = true := by
    unfold Text.isNameStart at h
    simp only [Text.isNameChar, Char.isAlphanum, Bool.or_eq_true] at h ⊢
    exact h.imp_left .inl
  rw [Text.isWord, if_pos (Naming.toNat_lt_of_isNameChar hname)]
  exact hname

theorem IsComponent.ne_nil {cs : List Char} (h : IsComponent cs) : cs ≠ [] := by
  obtain ⟨c, word, rfl, -⟩ := h
  exact List.cons_ne_nil c word

theorem IsComponent.isWord {cs : List Char} (h : IsComponent cs) : ∀ x ∈ cs, Text.isWord x = true := by
  obtain ⟨c, word, rfl, hc, hword⟩ := h
  exact List.forall_mem_cons.2 ⟨isWord_of_isNameStart hc, hword⟩

theorem IsComponent.dot_not_mem {cs : List Char} (h : IsComponent cs) : '.' ∉ cs := by
  intro hdot
  have hword := h.isWord '.' hdot
  revert hword
  decide +kernel

theorem isComponent_of_component? {cs component rest : List Char} (h : component? cs = some (component, rest)) :
    IsComponent component := by
  unfold component? at h
  split at h
  · cases h
  · next c cs =>
    split at h
    · next hc =>
      cases h
      exact ⟨c, cs.takeWhile Text.isWord, rfl, hc, List.all_eq_true.1 List.all_takeWhile⟩
    · cases h

theorem isComponent_of_mem_moreComponents {cs component : List Char} (h : component ∈ (moreComponents cs).1) :
    IsComponent component := by
  fun_induction moreComponents cs with
  | case1 afterDot first rest hfirst hlt components last hmore ih =>
    rcases List.mem_cons.1 h with rfl | h
    · exact isComponent_of_component? hfirst
    · exact ih (by rwa [hmore])
  | case2 => cases h
  | case3 => cases h

theorem isComponent_of_chain? {cs rest : List Char} {components : List (List Char)}
    (h : chain? cs = some (components, rest)) : ∀ component ∈ components, IsComponent component := by
  obtain ⟨⟨first, afterFirst⟩, hfirst, h⟩ := Option.map_eq_some_iff.1 h
  cases h
  intro component hcomponent
  rcases List.mem_cons.1 hcomponent with rfl | hcomponent
  · exact isComponent_of_component? hfirst
  · exact isComponent_of_mem_moreComponents hcomponent

/-- The name that a dotted name ends in. -/
theorem ne_empty_of_split? {target module imported : String} (h : split? target = some (module, imported)) :
    imported ≠ "" := by
  unfold split? at h
  split at h
  · next components hchain =>
    split at h
    · next hlength =>
      cases h
      have hne : components ≠ [] := by
        rintro rfl
        simp at hlength
      rw [List.getLastD_eq_getLast?, List.getLast?_eq_some_getLast hne, Option.getD_some, ne_eq,
        String.ofList_eq_empty_iff]
      exact (isComponent_of_chain? hchain _ (List.getLast_mem hne)).ne_nil
    · cases h
  · cases h

/-- Components of a chain end in no dot. -/
theorem getLast?_dotted {components : List (List Char)} (hne : components ≠ [])
    (h : ∀ component ∈ components, IsComponent component) : (dotted components).toList.getLast? ≠ some '.' := by
  obtain ⟨init, last, rfl⟩ := List.eq_nil_or_concat' components |>.resolve_left hne
  have hlast : IsComponent last := h last (by simp)
  obtain ⟨before, hbefore⟩ := Text.exists_intercalate_append ['.'] init
  rw [dotted, String.toList_ofList, hbefore, List.getLast?_append_of_ne_nil _ hlast.ne_nil]
  exact fun hdot => hlast.dot_not_mem (List.mem_of_getLast? hdot)

private theorem getLast?_of_mem_mentionedFrom {fuel : Nat} {before : Option Char} {cs : List Char} {module : String}
    (h : module ∈ mentionedFrom fuel before cs) : module.toList.getLast? ≠ some '.' := by
  fun_induction mentionedFrom fuel before cs with
  | case1 => cases h
  | case2 => cases h
  | case3 fuel before c cs components rest hchain onward hlength ih =>
    rcases List.mem_cons.1 h with rfl | h
    · have hcomponents : ∀ component ∈ components, IsComponent component := by
        split at hchain
        · exact isComponent_of_chain? hchain
        · cases hchain
      refine getLast?_dotted ?_ fun component hcomponent => hcomponents component (List.dropLast_subset _ hcomponent)
      refine List.ne_nil_of_length_pos ?_
      rw [List.length_dropLast]
      omega
    · exact ih h
  | case4 fuel before c cs components rest hchain onward hlength ih => exact ih h
  | case5 fuel before c cs hchain ih => exact ih h

theorem getLast?_of_mem_modules {target module : String} (h : module ∈ modules target) :
    module.toList.getLast? ≠ some '.' :=
  getLast?_of_mem_mentionedFrom (mem_ascendingTexts.1 h)

end SchemaBindings.Target
