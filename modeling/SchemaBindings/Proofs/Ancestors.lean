import Mathlib.Data.Finset.Card
import SchemaBindings.Proofs.Bases

/-!
# Ancestors without cycles

In a run whose interfaces do not inherit themselves, an interface has more ancestors than each of them. So what a
type lists is not lost where it is no base: some base inherits it (`exists_minimal_above`), and an interface that is
implemented at all is a base of some interface or type (`exists_minimal_of_edge`).
-/

namespace SchemaBindings

open Schema Relation

/-- The types that a definition lists as bases. -/
def Schema.Definition.listed (document : Document) : Definition → List String
  | .object type => type.interfaces ++ unionsContaining document type.name
  | .interface type => type.interfaces
  | _ => []

theorem mem_listed_of_implements {document : Document} {d : Definition} {n : String} (h : n ∈ d.implements) :
    n ∈ d.listed document := by
  match d, h with
  | .object type, h => exact List.mem_append_left _ h
  | .interface type, h => exact h

namespace Scope

/-! ### Numbers of ancestors -/

variable {s : Scope}

theorem mem_ancestors_trans {a b c : String} (hab : b ∈ s.ancestors a) (hbc : c ∈ s.ancestors b) :
    c ∈ s.ancestors a :=
  mem_ancestors_iff.2 (.trans (mem_ancestors_iff.1 hab) (mem_ancestors_iff.1 hbc))

/-- An ancestor has fewer ancestors, if it is not one of its own. -/
theorem card_ancestors_lt {n k : String} (hacyclic : k ∉ s.ancestors k) (h : k ∈ s.ancestors n) :
    (s.ancestors k).toFinset.card < (s.ancestors n).toFinset.card := by
  have hsub : (s.ancestors k).toFinset ⊆ (s.ancestors n).toFinset := by
    intro a ha
    rw [List.mem_toFinset] at ha ⊢
    exact mem_ancestors_trans h ha
  have hmem : k ∈ (s.ancestors n).toFinset := List.mem_toFinset.2 h
  have hnew : k ∉ (s.ancestors k).toFinset := fun hmem => hacyclic (List.mem_toFinset.1 hmem)
  exact Finset.card_lt_card ((Finset.ssubset_iff_of_subset hsub).2 ⟨k, hmem, hnew⟩)

/-! ### What is listed is not lost -/

/-- A listed name is minimal, or a minimal name inherits it. The induction is on the number of listed names that
inherit it. -/
theorem exists_minimal_above (hacyclic : ∀ n, n ∉ s.ancestors n) {names : List String} {n : String} (hn : n ∈ names) :
    ∃ m ∈ s.minimalNames names, m = n ∨ n ∈ s.ancestors m := by
  induction hcard : (names.toFinset.filter (n ∈ s.ancestors ·)).card using Nat.strongRecOn generalizing n with
  | ind count ih =>
    by_cases hminimal : ∀ m ∈ names, n ∉ s.ancestors m
    · exact ⟨n, mem_minimalNames.2 ⟨hn, hminimal⟩, .inl rfl⟩
    · obtain ⟨k, hk, hnk⟩ : ∃ k ∈ names, n ∈ s.ancestors k := by simpa using hminimal
      -- what inherits `k` also inherits `n`, but `k` does not inherit itself
      have hsub : names.toFinset.filter (k ∈ s.ancestors ·) ⊆ names.toFinset.filter (n ∈ s.ancestors ·) := by
        intro m hm
        rw [Finset.mem_filter] at hm ⊢
        exact ⟨hm.1, mem_ancestors_trans hm.2 hnk⟩
      have hlt : (names.toFinset.filter (k ∈ s.ancestors ·)).card < count := by
        rw [← hcard]
        refine Finset.card_lt_card ((Finset.ssubset_iff_of_subset hsub).2 ⟨k, ?_, ?_⟩)
        · exact Finset.mem_filter.2 ⟨List.mem_toFinset.2 hk, hnk⟩
        · exact fun hm => hacyclic k (Finset.mem_filter.1 hm).2
      obtain ⟨m, hm, hmk⟩ := ih _ hlt hk rfl
      refine ⟨m, hm, .inr ?_⟩
      rcases hmk with rfl | hmk
      · exact hnk
      · exact mem_ancestors_trans hmk hnk

section

variable {o : Options} {documents : List Document}

/-- Only interfaces have ancestors, so it is enough that no interface is an ancestor of itself. -/
theorem not_mem_ancestors_self (hacyclic : ∀ n ∈ interfaceNames documents, n ∉ (ofRun o documents).ancestors n)
    (n : String) : n ∉ (ofRun o documents).ancestors n := by
  intro h
  obtain ⟨k, hnk, -⟩ := TransGen.head'_iff.1 (mem_ancestors_iff.1 h)
  obtain ⟨type, htype, hname, -⟩ := exists_of_edge_ofRun hnk
  exact hacyclic n (mem_interfaceNames.2 ⟨type, htype, hname⟩) h

/-- What some interface implements, some interface has as a minimal name. The induction is on the number of ancestors
of the first. -/
theorem exists_minimal_of_edge (hacyclic : ∀ n, n ∉ (ofRun o documents).ancestors n) {a n : String}
    (h : (ofRun o documents).interfaces.Edge a n) :
    ∃ type, .interface type ∈ documents.flatten ∧ n ∈ (ofRun o documents).minimalNames type.interfaces := by
  induction hcard : ((ofRun o documents).ancestors a).toFinset.card using Nat.strongRecOn generalizing a with
  | ind count ih =>
    obtain ⟨successors, hfind, hn⟩ := h
    obtain ⟨type, htype, -, rfl⟩ := interface_of_find? hfind
    by_cases hminimal : ∀ m ∈ type.interfaces, n ∉ (ofRun o documents).ancestors m
    · exact ⟨type, htype, mem_minimalNames.2 ⟨hn, hminimal⟩⟩
    · obtain ⟨m, hm, hnm⟩ : ∃ m ∈ type.interfaces, n ∈ (ofRun o documents).ancestors m := by simpa using hminimal
      -- the last interface on the way from `m` to `n` lies above `a`
      obtain ⟨b, hmb, hbn⟩ := TransGen.tail'_iff.1 (mem_ancestors_iff.1 hnm)
      have hb : b ∈ (ofRun o documents).ancestors a := mem_ancestors_iff.2 (.head' ⟨_, hfind, hm⟩ hmb)
      exact ih _ (hcard ▸ card_ancestors_lt (hacyclic b) hb) hbn rfl

end

end Scope

end SchemaBindings
