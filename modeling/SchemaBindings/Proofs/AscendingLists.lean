import Mathlib.Data.List.Nodup
import Mathlib.Data.List.Sort
import Mathlib.Data.Prod.Lex
import Mathlib.Data.String.Basic
import SchemaBindings.Proofs.Lookup

/-!
# Ascending lists

Sorted insertion keeps a list ascending and free of repetitions, so an ascending list is known by its elements
(`ascendingTexts_congr`). Where elements with one key are equal, the list ascends strictly.
-/

namespace SchemaBindings

section

variable {α γ : Type} [BEq α] [LawfulBEq α] [LinearOrder γ] {less : α → α → Bool}

private theorem pairwise_insertAscending {key : α → γ} (hless : ∀ a b, less a b = true ↔ key a < key b) {x : α}
    {l : List α} (h : l.Pairwise fun a b => key a ≤ key b) :
    (insertAscending less x l).Pairwise fun a b => key a ≤ key b := by
  induction l with
  | nil => exact List.pairwise_singleton ..
  | cons y l ih =>
    obtain ⟨hy, hl⟩ := List.pairwise_cons.1 h
    unfold insertAscending
    split
    · exact h
    · split
      · next hxy =>
        have hxy : key x < key y := (hless x y).1 hxy
        refine List.pairwise_cons.2 ⟨fun b hb => ?_, h⟩
        rcases List.mem_cons.1 hb with rfl | hb
        · exact hxy.le
        · exact hxy.le.trans (hy b hb)
      · next hxy =>
        have hxy : key y ≤ key x := not_lt.1 (mt (hless x y).2 hxy)
        refine List.pairwise_cons.2 ⟨fun b hb => ?_, ih hl⟩
        rcases (mem_insertAscending less).1 hb with rfl | hb
        · exact hxy
        · exact hy b hb

private theorem nodup_insertAscending {key : α → γ} (hless : ∀ a b, less a b = true ↔ key a < key b) {x : α}
    {l : List α} (h : l.Pairwise fun a b => key a ≤ key b) (hnodup : l.Nodup) : (insertAscending less x l).Nodup := by
  induction l with
  | nil => exact List.nodup_singleton x
  | cons y l ih =>
    obtain ⟨hy, hl⟩ := List.pairwise_cons.1 h
    unfold insertAscending
    split
    · exact hnodup
    · next hne =>
      have hne : x ≠ y := fun he => hne (beq_iff_eq.2 he)
      split
      · next hxy =>
        -- behind `y` nothing comes before `y`, so `x` is not there
        have hxy : key x < key y := (hless x y).1 hxy
        refine List.nodup_cons.2 ⟨fun hx => ?_, hnodup⟩
        rcases List.mem_cons.1 hx with he | hx
        · exact hne he
        · exact absurd (hy x hx) (not_le.2 hxy)
      · obtain ⟨hynew, hnodup⟩ := List.nodup_cons.1 hnodup
        refine List.nodup_cons.2 ⟨fun hy' => ?_, ih hl hnodup⟩
        rcases (mem_insertAscending less).1 hy' with he | hy'
        · exact hne he.symm
        · exact hynew hy'

theorem pairwise_ascending (key : α → γ) (hless : ∀ a b, less a b = true ↔ key a < key b) (l : List α) :
    (ascending less l).Pairwise fun a b => key a ≤ key b := by
  induction l with
  | nil => exact List.Pairwise.nil
  | cons x l ih => exact pairwise_insertAscending hless ih

theorem nodup_ascending (key : α → γ) (hless : ∀ a b, less a b = true ↔ key a < key b) (l : List α) :
    (ascending less l).Nodup := by
  induction l with
  | nil => exact List.nodup_nil
  | cons x l ih => exact nodup_insertAscending hless (pairwise_ascending key hless l) ih

theorem pairwise_less_ascending (key : α → γ) (hless : ∀ a b, less a b = true ↔ key a < key b) {l : List α}
    (hinj : ∀ a ∈ l, ∀ b ∈ l, key a = key b → a = b) : (ascending less l).Pairwise fun a b => less a b = true := by
  refine ((pairwise_ascending key hless l).and (nodup_ascending key hless l)).imp_of_mem fun ha hb hab => ?_
  have hne := mt (hinj _ ((mem_ascending less).1 ha) _ ((mem_ascending less).1 hb)) hab.2
  exact (hless _ _).2 (lt_of_le_of_ne hab.1 hne)

end

theorem pairwise_ascendingTexts (l : List String) : (ascendingTexts l).Pairwise (· < ·) := by
  have hless (a b : String) : decide (a < b) = true ↔ id a < id b := decide_eq_true_iff
  exact (pairwise_less_ascending id hless fun a _ b _ h => h).imp fun h => of_decide_eq_true h

/-- Ascending texts do not depend on the order in which they come. -/
theorem ascendingTexts_congr {l l' : List String} (h : ∀ x, x ∈ l ↔ x ∈ l') : ascendingTexts l = ascendingTexts l' :=
  (pairwise_ascendingTexts l).eq_of_mem_iff (pairwise_ascendingTexts l') fun x => by
    rw [mem_ascendingTexts, mem_ascendingTexts, h]

/-- Sorting puts texts that come once each into ascending order. -/
theorem mergeSort_eq_ascendingTexts {l : List String} (h : l.Nodup) :
    l.mergeSort (fun a b => decide (a ≤ b)) = ascendingTexts l := by
  have hperm := List.mergeSort_perm l fun a b => decide (a ≤ b)
  have htrans (a b c : String) (hab : decide (a ≤ b) = true) (hbc : decide (b ≤ c) = true) : decide (a ≤ c) = true :=
    decide_eq_true ((of_decide_eq_true hab).trans (of_decide_eq_true hbc))
  have htotal (a b : String) : (decide (a ≤ b) || decide (b ≤ a)) = true := by simpa using le_total a b
  have hascending : (l.mergeSort fun a b => decide (a ≤ b)).Pairwise (· < ·) :=
    ((List.pairwise_mergeSort htrans htotal l).and (hperm.nodup_iff.2 h)).imp fun hab =>
      lt_of_le_of_ne (of_decide_eq_true hab.1) hab.2
  refine hascending.eq_of_mem_iff (pairwise_ascendingTexts l) fun x => ?_
  rw [hperm.mem_iff, mem_ascendingTexts]

/-! ### Imports -/

namespace Import

/-- What imports are ordered by: the module, then the name, which is empty for a whole module. -/
def key (i : Import) : String ×ₗ String := toLex (i.module, i.name.getD "")

theorem less_iff (i j : Import) : i.less j = true ↔ i.key < j.key := by
  simp [less, key, Prod.Lex.toLex_lt_toLex]

theorem nodup_sorted (imports : List Import) : (sorted imports).Nodup := nodup_ascending key less_iff imports

end Import

end SchemaBindings
