import Mathlib.Data.List.Nodup
import Mathlib.Logic.Relation

/-!
# Linearization of class hierarchies

The ancestors of a class are put in one order by merging the orders of its bases with the list of the bases: the next
element is the first head that stands behind no other element. A merge succeeds exactly if some order contains all
lists (`merge?_isSome_iff`), so a class has an order exactly if no class at or above it has bases in conflict
(`exists_linearizes_iff`). An order holds the classes above, each once (`Linearizes.mem_iff`, `Linearizes.nodup`).
-/

namespace SchemaBindings

variable {α : Type} [DecidableEq α]

namespace Linearization

/-! ### Merging -/

/-- The first elements of the lists. -/
def heads (lists : List (List α)) : List α := lists.filterMap List.head?

/-- The first head that stands behind no other element. -/
def next? (lists : List (List α)) : Option α := (heads lists).find? fun a => lists.all fun l => !l.tail.contains a

/-- The list without its head, if that is the given element. -/
def dropHead (a : α) (l : List α) : List α := if l.head? = some a then l.tail else l

/-- The lists once the element has been taken. -/
def advance (a : α) (lists : List (List α)) : List (List α) := lists.map (dropHead a)

private theorem length_dropHead_le (a : α) (l : List α) : (dropHead a l).length ≤ l.length := by
  unfold dropHead
  split <;> simp

private theorem length_advance_lt {a : α} {lists : List (List α)} (h : a ∈ heads lists) :
    (advance a lists).flatten.length < lists.flatten.length := by
  have hle (lists : List (List α)) : (advance a lists).flatten.length ≤ lists.flatten.length := by
    induction lists with
    | nil => exact Nat.le_refl _
    | cons l lists ih =>
      have hl := length_dropHead_le a l
      simp only [advance, List.map_cons, List.flatten_cons, List.length_append] at ih ⊢
      omega
  obtain ⟨l, hl, hhead⟩ := List.mem_filterMap.1 h
  obtain ⟨before, after, rfl⟩ := List.append_of_mem hl
  obtain ⟨rest, rfl⟩ := List.head?_eq_some_iff.1 hhead
  have hbefore := hle before
  have hafter := hle after
  have hdrop : dropHead a (a :: rest) = rest := if_pos rfl
  simp only [advance, List.map_append, List.map_cons, List.flatten_append, List.flatten_cons, List.length_append,
    hdrop, List.length_cons] at hbefore hafter ⊢
  omega

/-- The merge of lists, if there is one. -/
def merge? (lists : List (List α)) : Option (List α) :=
  if heads lists = [] then some []
  else match _hnext : next? lists with
    | none => none
    | some a => (merge? (advance a lists)).map (a :: ·)
termination_by lists.flatten.length
decreasing_by exact length_advance_lt (List.mem_of_find?_eq_some _hnext)

/-- Does some order without repetitions contain all lists? -/
def Compatible (lists : List (List α)) : Prop := ∃ order : List α, order.Nodup ∧ ∀ l ∈ lists, l.Sublist order

private theorem dropHead_sublist (a : α) (l : List α) : (dropHead a l).Sublist l := by
  unfold dropHead
  split
  · exact List.tail_sublist l
  · exact .refl l

private theorem sublist_cons_of_dropHead {a : α} {l order : List α} (h : (dropHead a l).Sublist order) :
    l.Sublist (a :: order) := by
  unfold dropHead at h
  split at h
  · next hhead =>
    obtain ⟨rest, rfl⟩ := List.head?_eq_some_iff.1 hhead
    exact h.cons_cons a
  · exact h.cons a

private theorem not_mem_dropHead {a : α} {l : List α} (h : a ∉ l.tail) : a ∉ dropHead a l := by
  unfold dropHead
  split
  · exact h
  · next hhead =>
    cases l with
    | nil => simp
    | cons b l =>
      intro hmem
      rcases List.mem_cons.1 hmem with rfl | hmem
      · exact hhead rfl
      · exact h hmem

omit [DecidableEq α] in
private theorem eq_nil_of_heads_eq_nil {lists : List (List α)} (h : heads lists = []) {l : List α} (hl : l ∈ lists) :
    l = [] := by
  have := List.filterMap_eq_nil_iff.1 h l hl
  simpa using this

private theorem not_mem_tail_of_next {lists : List (List α)} {a : α} (h : next? lists = some a) {l : List α}
    (hl : l ∈ lists) : a ∉ l.tail := by
  have hfree := List.find?_some h
  simp only [List.all_eq_true, Bool.not_eq_true', List.contains_eq_mem, decide_eq_false_iff_not] at hfree
  exact hfree l hl

/-- A merge contains all lists, each element once and no others. -/
theorem merge?_spec {lists : List (List α)} {order : List α} (h : merge? lists = some order) :
    order.Nodup ∧ (∀ l ∈ lists, l.Sublist order) ∧ ∀ a ∈ order, ∃ l ∈ lists, a ∈ l := by
  fun_induction merge? lists generalizing order with
  | case1 lists hheads =>
    cases h
    refine ⟨List.nodup_nil, fun l hl => ?_, fun a ha => by cases ha⟩
    rw [eq_nil_of_heads_eq_nil hheads hl]
  | case2 lists hheads hnext => cases h
  | case3 lists hheads a hnext ih =>
    obtain ⟨rest, hrest, rfl⟩ := Option.map_eq_some_iff.1 h
    obtain ⟨hnodup, hsub, hfrom⟩ := ih hrest
    refine ⟨List.nodup_cons.2 ⟨fun ha => ?_, hnodup⟩, fun l hl => ?_, fun b hb => ?_⟩
    · obtain ⟨l', hl', ha⟩ := hfrom a ha
      obtain ⟨l, hl, rfl⟩ := List.mem_map.1 hl'
      exact not_mem_dropHead (not_mem_tail_of_next hnext hl) ha
    · exact sublist_cons_of_dropHead (hsub _ (List.mem_map_of_mem hl))
    · rcases List.mem_cons.1 hb with rfl | hb
      · obtain ⟨l, hl, hhead⟩ := List.mem_filterMap.1 (List.mem_of_find?_eq_some hnext)
        exact ⟨l, hl, List.mem_of_mem_head? hhead⟩
      · obtain ⟨l', hl', hb⟩ := hfrom b hb
        obtain ⟨l, hl, rfl⟩ := List.mem_map.1 hl'
        exact ⟨l, hl, (dropHead_sublist a l).subset hb⟩

/-- The first element of a common order that is a head stands behind no other element. -/
private theorem exists_free_head {lists : List (List α)} {order : List α} (hnodup : order.Nodup)
    (hsub : ∀ l ∈ lists, l.Sublist order) (hheads : heads lists ≠ []) :
    ∃ a ∈ heads lists, ∀ l ∈ lists, a ∉ l.tail := by
  induction order with
  | nil =>
    refine absurd (List.filterMap_eq_nil_iff.2 fun l hl => ?_) hheads
    rw [List.sublist_nil.1 (hsub l hl)]
    rfl
  | cons a order ih =>
    obtain ⟨hnew, hnodup⟩ := List.nodup_cons.1 hnodup
    -- if `a` is no head, no list holds it, and the rest of the order contains them all
    by_cases ha : a ∈ heads lists
    · refine ⟨a, ha, fun l hl hmem => hnew ?_⟩
      exact (List.Sublist.tail (hsub l hl)).subset hmem
    · refine ih hnodup fun l hl => ?_
      rcases List.sublist_cons_iff.1 (hsub l hl) with h | ⟨rest, rfl, -⟩
      · exact h
      · exact absurd (List.mem_filterMap.2 ⟨a :: rest, hl, rfl⟩ : a ∈ heads lists) ha

/-- Lists have a merge exactly if some order contains them all. -/
theorem merge?_isSome_iff {lists : List (List α)} : (merge? lists).isSome ↔ Compatible lists := by
  constructor
  · intro h
    obtain ⟨order, horder⟩ := Option.isSome_iff_exists.1 h
    obtain ⟨hnodup, hsub, -⟩ := merge?_spec horder
    exact ⟨order, hnodup, hsub⟩
  · rintro ⟨order, hnodup, hsub⟩
    fun_induction merge? lists with
    | case1 lists hheads => rfl
    | case2 lists hheads hnext =>
      obtain ⟨a, ha, hfree⟩ := exists_free_head hnodup hsub hheads
      have hblocked := List.find?_eq_none.1 hnext a ha
      simp only [List.all_eq_true, Bool.not_eq_true', List.contains_eq_mem, decide_eq_false_iff_not] at hblocked
      exact absurd hfree hblocked
    | case3 lists hheads a hnext ih =>
      -- the order still contains the shorter lists, though it need not start with `a`
      rw [Option.isSome_map]
      refine ih fun l' hl' => ?_
      obtain ⟨l, hl, rfl⟩ := List.mem_map.1 hl'
      exact (dropHead_sublist a l).trans (hsub l hl)

end Linearization

/-! ### Linearization -/

open Linearization Relation

/-- The class is one of the bases of the other. -/
def IsBase (bases : α → List α) (a c : α) : Prop := a ∈ bases c

/-- The order is the class followed by the merge of the orders of its bases and the list of its bases. -/
inductive Linearizes (bases : α → List α) : α → List α → Prop
  | intro {c : α} {above : α → List α} {order : List α} (habove : ∀ b ∈ bases c, Linearizes bases b (above b))
      (horder : merge? ((bases c).map above ++ [bases c]) = some order) : Linearizes bases c (c :: order)

/-- Have the bases of the class orders that no order contains together with the list of bases? -/
def Conflict (bases : α → List α) (c : α) : Prop :=
  ∃ above : α → List α, (∀ b ∈ bases c, Linearizes bases b (above b)) ∧ ¬ Compatible ((bases c).map above ++ [bases c])

variable {bases : α → List α} {c : α}

/-- There is at most one order. -/
theorem Linearizes.unique {order order' : List α} (h : Linearizes bases c order) (h' : Linearizes bases c order') :
    order = order' := by
  induction h generalizing order' with
  | @intro c above order habove horder ih =>
    cases h' with
    | @intro c above' order' habove' horder' =>
      have he : (bases c).map above = (bases c).map above' := List.map_congr_left fun b hb => ih b hb (habove' b hb)
      rw [he, horder'] at horder
      cases horder
      rfl

/-- The order of a class contains the list of its bases and the orders of the bases. -/
theorem Linearizes.contains {order : List α} (h : Linearizes bases c order) :
    order.tail.Nodup ∧ (bases c).Sublist order.tail ∧
      ∀ b ∈ bases c, ∃ above, Linearizes bases b above ∧ above.Sublist order.tail := by
  cases h with
  | @intro c above order habove horder =>
    obtain ⟨hnodup, hsub, -⟩ := merge?_spec horder
    refine ⟨hnodup, hsub _ (List.mem_append_right _ List.mem_cons_self), fun b hb => ⟨above b, habove b hb, ?_⟩⟩
    exact hsub _ (List.mem_append_left _ (List.mem_map_of_mem hb))

/-- There is at most one order for each base, so it does not matter by which orders a conflict is judged. -/
theorem conflict_iff {above : α → List α} (habove : ∀ b ∈ bases c, Linearizes bases b (above b)) :
    Conflict bases c ↔ ¬ Compatible ((bases c).map above ++ [bases c]) := by
  constructor
  · rintro ⟨above', habove', hconflict⟩
    have he : (bases c).map above = (bases c).map above' :=
      List.map_congr_left fun b hb => (habove b hb).unique (habove' b hb)
    rwa [he]
  · exact fun hconflict => ⟨above, habove, hconflict⟩

/-- A class with an order has no conflict among its bases. -/
theorem Linearizes.not_conflict {order : List α} (h : Linearizes bases c order) : ¬ Conflict bases c := by
  cases h with
  | @intro c above order habove horder =>
    rw [conflict_iff habove, not_not]
    exact merge?_isSome_iff.1 (Option.isSome_of_eq_some horder)

/-- Where no class is above itself, a class has an order exactly if there is no conflict at or above it. -/
theorem exists_linearizes_iff (hacc : Acc (IsBase bases) c) :
    (∃ order, Linearizes bases c order) ↔ ∀ a, ReflTransGen (IsBase bases) a c → ¬ Conflict bases a := by
  constructor
  · rintro ⟨order, h⟩ a ha
    clear hacc
    induction ha generalizing order with
    | refl => exact h.not_conflict
    | tail _ hb ih =>
      obtain ⟨above, hlin, -⟩ := h.contains.2.2 _ hb
      exact ih above hlin
  · intro h
    induction hacc with
    | intro c _ ih =>
      have hbases (b : α) (hb : b ∈ bases c) : ∃ above, Linearizes bases b above :=
        ih b hb fun a ha => h a (.tail ha hb)
      choose! above habove using hbases
      have hcompatible : Compatible ((bases c).map above ++ [bases c]) := by
        by_contra hc
        exact h c .refl ⟨above, habove, hc⟩
      obtain ⟨order, horder⟩ := Option.isSome_iff_exists.1 (merge?_isSome_iff.2 hcompatible)
      exact ⟨c :: order, .intro habove horder⟩

/-! ### What an order holds -/

theorem Linearizes.acc {order : List α} (h : Linearizes bases c order) : Acc (IsBase bases) c := by
  induction h with
  | intro _ _ ih => exact .intro _ ih

/-- An order holds the class and all classes above it. -/
theorem Linearizes.mem_iff {order : List α} (h : Linearizes bases c order) {a : α} :
    a ∈ order ↔ ReflTransGen (IsBase bases) a c := by
  induction h with
  | @intro c above order habove horder ih =>
    obtain ⟨-, hsub, hfrom⟩ := merge?_spec horder
    rw [ReflTransGen.cases_tail_iff, List.mem_cons]
    constructor
    · rintro (rfl | ha)
      · exact .inl rfl
      · obtain ⟨l, hl, ha⟩ := hfrom a ha
        rcases List.mem_append.1 hl with hl | hl
        · obtain ⟨b, hb, rfl⟩ := List.mem_map.1 hl
          exact .inr ⟨b, (ih b hb).1 ha, hb⟩
        · rw [List.mem_singleton.1 hl] at ha
          exact .inr ⟨a, .refl, ha⟩
    · rintro (rfl | ⟨b, ha, hb⟩)
      · exact .inl rfl
      · have hsub := hsub (above b) (List.mem_append_left _ (List.mem_map_of_mem hb))
        exact .inr (hsub.subset ((ih b hb).2 ha))

omit [DecidableEq α] in
private theorem not_rel_self {r : α → α → Prop} {a : α} (h : Acc r a) : ¬ r a a := by
  induction h with
  | intro a _ ih => exact fun ha => ih a ha ha

/-- An order holds each class once. -/
theorem Linearizes.nodup {order : List α} (h : Linearizes bases c order) : order.Nodup := by
  have hacc := h.acc
  cases h with
  | @intro c above order habove horder =>
    obtain ⟨hnodup, -, hfrom⟩ := merge?_spec horder
    refine List.nodup_cons.2 ⟨fun hc => ?_, hnodup⟩
    -- the class would be above itself
    have hcycle : TransGen (IsBase bases) c c := by
      obtain ⟨l, hl, hc⟩ := hfrom c hc
      rcases List.mem_append.1 hl with hl | hl
      · obtain ⟨b, hb, rfl⟩ := List.mem_map.1 hl
        exact .tail' ((habove b hb).mem_iff.1 hc) hb
      · exact .single (List.mem_singleton.1 hl ▸ hc : c ∈ bases c)
    exact not_rel_self hacc.transGen hcycle

/-! ### Conflicts -/

omit [DecidableEq α] in
private theorem not_both_orders {a b : α} {order : List α} (hnodup : order.Nodup) (hab : [a, b].Sublist order) :
    ¬ [b, a].Sublist order := by
  intro hba
  induction order with
  | nil => cases hab
  | cons x order ih =>
    obtain ⟨hx, hrest⟩ := List.nodup_cons.1 hnodup
    rcases List.sublist_cons_iff.1 hab with hab' | ⟨rest, he, hb⟩
    · rcases List.sublist_cons_iff.1 hba with hba' | ⟨rest, he, ha⟩
      · exact ih hrest hab' hba'
      · cases he
        exact hx (hab'.subset (List.mem_cons_of_mem a List.mem_cons_self))
    · cases he
      rcases List.sublist_cons_iff.1 hba with hba' | ⟨rest, he, ha⟩
      · exact hx (hba'.subset (List.mem_cons_of_mem b List.mem_cons_self))
      · cases he
        exact hx (hb.subset List.mem_cons_self)

/-- Bases that list two classes in opposite orders keep a class from having an order. -/
theorem not_linearizes_of_opposite {x y a b : α} (hx : x ∈ bases c) (hy : y ∈ bases c)
    (hab : [a, b].Sublist (bases x)) (hba : [b, a].Sublist (bases y)) : ¬ ∃ order, Linearizes bases c order := by
  rintro ⟨order, h⟩
  obtain ⟨hnodup, -, habove⟩ := h.contains
  have hsub {z : α} (hz : z ∈ bases c) : (bases z).Sublist order.tail := by
    obtain ⟨above, hlin, hsub⟩ := habove z hz
    exact (hlin.contains.2.1.trans (List.tail_sublist above)).trans hsub
  exact not_both_orders hnodup (hab.trans (hsub hx)) (hba.trans (hsub hy))

end SchemaBindings
