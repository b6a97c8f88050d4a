import Mathlib.Data.List.Chain
import SchemaBindings.Proofs.Bases

/-!
# The closure of interfaces

The ancestors of an interface are found by a search that ends on interfaces of every shape, and that finds the same
names in whatever order it looks at them: those at the ends of the paths with one step or more (`ancestors_closure`).
Nothing forbids interfaces to inherit from each other in a circle; an interface is among its own ancestors exactly if
it lies on one.
-/

namespace SchemaBindings

open Relation Search

/-! ### Circles without repetitions -/

section

variable {α : Type} {r : α → α → Prop} {a b : α}

/-- Does the relation lead around a circle of distinct elements on which this one lies? -/
def LiesOnCircle (r : α → α → Prop) (a : α) : Prop :=
  ∃ others : List α, (a :: others).Nodup ∧ (a :: (others ++ [a])).IsChain r

/-- A path need not come twice through one element, nor through its end before it ends there. -/
private theorem exists_simple_path (h : TransGen r a b) :
    ∃ between : List α, (a :: between).Nodup ∧ b ∉ between ∧ (a :: (between ++ [b])).IsChain r := by
  induction h using TransGen.head_induction_on with
  | single hab => exact ⟨[], by simp, List.not_mem_nil, List.isChain_pair.2 hab⟩
  | @head a c hac _ ih =>
    obtain ⟨between, hnodup, hb, hchain⟩ := ih
    classical
    by_cases ha : a ∈ c :: between
    · -- the path has come through `a` before: only its rest is needed
      obtain ⟨before, after, hsplit⟩ := List.append_of_mem ha
      have hsuffix : a :: after <:+ c :: between := ⟨before, hsplit.symm⟩
      have hafter : after <:+ between := by
        rcases List.suffix_cons_iff.1 hsuffix with he | hs
        · exact (List.cons.inj he).2 ▸ List.suffix_refl after
        · exact (List.suffix_cons a after).trans hs
      refine ⟨after, hnodup.sublist hsuffix.sublist, fun hmem => hb (hafter.subset hmem), ?_⟩
      refine hchain.suffix ?_
      rw [← List.cons_append, ← List.cons_append, hsplit, List.append_assoc]
      exact List.suffix_append _ _
    · by_cases hcb : c = b
      · exact ⟨[], by simp, List.not_mem_nil, List.isChain_pair.2 (hcb ▸ hac)⟩
      · refine ⟨c :: between, List.nodup_cons.2 ⟨ha, hnodup⟩, ?_, List.isChain_cons_cons.2 ⟨hac, hchain⟩⟩
        rw [List.mem_cons, not_or]
        exact ⟨Ne.symm hcb, hb⟩

private theorem transGen_of_isChain {between : List α} (h : (a :: (between ++ [b])).IsChain r) : TransGen r a b := by
  induction between generalizing a with
  | nil => exact .single (List.isChain_pair.1 h)
  | cons c between ih =>
    obtain ⟨hac, hrest⟩ := List.isChain_cons_cons.1 h
    exact .head hac (ih hrest)

/-- What leads back to itself lies on a circle. -/
theorem transGen_self_iff : TransGen r a a ↔ LiesOnCircle r a := by
  constructor
  · intro h
    obtain ⟨others, hnodup, -, hchain⟩ := exists_simple_path h
    exact ⟨others, hnodup, hchain⟩
  · rintro ⟨others, -, hchain⟩
    exact transGen_of_isChain hchain

end

/-! ### Ancestors -/

namespace Scope

/-- A search among the interfaces takes no more turns than there is work at its start, and once it can take no other,
it has found the ancestors, each once. Some search does end there. The ancestors are the names to which the
interfaces lead in one step or more, and the name itself is one of them exactly if it lies on a circle. -/
theorem ancestors_closure (s : Scope) (name : String) :
    (∀ n search, Turns s.interfaces n (start s.interfaces name) search →
      n + search.work s.interfaces = (start s.interfaces name).work s.interfaces ∧
        ((∀ next, ¬ Turn s.interfaces search next) → search.seen.Perm (s.ancestors name))) ∧
    (∃ n, Turns s.interfaces n (start s.interfaces name) ⟨[], s.ancestors name⟩) ∧
    (∀ b, b ∈ s.ancestors name ↔ TransGen s.interfaces.Edge name b) ∧
    (name ∈ s.ancestors name ↔ LiesOnCircle s.interfaces.Edge name) := by
  have hfaithful := faithful_start s.interfaces name
  refine ⟨fun n search hturns => ⟨hturns.work_eq.symm, fun hlast => ?_⟩, exists_turns_reachable s.interfaces name,
    fun b => mem_ancestors_iff, mem_ancestors_iff.trans transGen_self_iff⟩
  have hdone : search.pending = [] := by
    by_contra hpending
    obtain ⟨next, hnext⟩ := exists_turn s.interfaces hpending
    exact hlast next hnext
  have hsearch := hturns.faithful hfaithful
  refine (List.perm_ext_iff_of_nodup hsearch.nodup (nodup_reachable s.interfaces name)).2 fun b => ?_
  rw [hsearch.mem_seen_iff hdone]
  exact mem_reachable_iff.symm

/-- Two interfaces that implement each other: the search from one of them takes at most seven turns, and finds this
interface again, but the third interface is not among its own ancestors. -/
theorem ancestors_closure_of_circle :
    let s : Scope := { (default : Scope) with
      interfaces := Table.ofList [("A", ["B", "B", "Node"]), ("B", ["A"]), ("Node", [])] }
    (∀ n search, Turns s.interfaces n (start s.interfaces "A") search → n ≤ 7) ∧ "A" ∈ s.ancestors "A" ∧
      "Node" ∉ s.ancestors "Node" := by
  intro s
  obtain ⟨hturns, -, -, hA⟩ := ancestors_closure s "A"
  obtain ⟨-, -, hNode, -⟩ := ancestors_closure s "Node"
  have hfindA : s.interfaces.find? "A" = some ["B", "B", "Node"] := by decide +kernel
  have hfindB : s.interfaces.find? "B" = some ["A"] := by decide +kernel
  have hfindNode : s.interfaces.find? "Node" = some [] := by decide +kernel
  refine ⟨fun n search h => ?_, hA.2 ⟨["B"], by decide, ?_⟩, fun hmem => ?_⟩
  · have hwork : (start s.interfaces "A").work s.interfaces = 7 := by decide +kernel
    have heq := (hturns n search h).1
    omega
  · exact List.isChain_cons_cons.2 ⟨⟨_, hfindA, by simp⟩, List.isChain_pair.2 ⟨_, hfindB, by simp⟩⟩
  · obtain ⟨b, ⟨successors, hfind, hb⟩, -⟩ := TransGen.head'_iff.1 ((hNode "Node").1 hmem)
    cases hfindNode.symm.trans hfind
    cases hb

end Scope

end SchemaBindings
