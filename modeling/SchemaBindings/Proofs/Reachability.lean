import Mathlib.Logic.Relation
import SchemaBindings.Proofs.Lookup

/-!
# Reachability

A search looks at pending names one after the other, in any order: a name that has been met is dropped, and another
one is marked and makes its successors pending. Each turn uses up one unit of work, so a search ends (`Turns.work_eq`).
While names are pending, every successor of a marked name is marked or pending; so once nothing is pending, the marked
names are those at the ends of the paths with one step or more (`Faithful.mem_seen_iff`). What `reachable` lists comes
from such a search (`mem_reachable_iff`).
-/

namespace SchemaBindings

variable {κ : Type} [DecidableEq κ] {graph : Table κ (List κ)}

/-! ### Steps in a graph -/

namespace Table

/-- The graph has a step from one name to the other. -/
def Edge (graph : Table κ (List κ)) (a b : κ) : Prop :=
  ∃ successors, graph.find? a = some successors ∧ b ∈ successors

/-- The names to which a name has a step. -/
def successors (graph : Table κ (List κ)) (name : κ) : List κ := (graph.find? name).getD []

theorem mem_successors_iff {a b : κ} : b ∈ graph.successors a ↔ graph.Edge a b := by
  unfold successors Edge
  cases graph.find? a <;> simp

end Table

/-! ### Turns of a search -/

/-- The names that a search has yet to look at, and those that it has marked. -/
structure Search (κ : Type) where
  pending : List κ
  seen : List κ

namespace Search

/-- The search from a name, before its first turn. -/
def start (graph : Table κ (List κ)) (name : κ) : Search κ := ⟨graph.successors name, []⟩

/-- A turn takes some pending name. If it is marked, it is dropped; else it is marked, and its successors become
pending. -/
inductive Turn (graph : Table κ (List κ)) : Search κ → Search κ → Prop
  | drop {name : κ} {pending rest seen : List κ} (htake : pending.Perm (name :: rest)) (hseen : name ∈ seen) :
      Turn graph ⟨pending, seen⟩ ⟨rest, seen⟩
  | mark {name : κ} {pending rest pending' seen : List κ} (htake : pending.Perm (name :: rest)) (hseen : name ∉ seen)
      (hadd : pending'.Perm (graph.successors name ++ rest)) : Turn graph ⟨pending, seen⟩ ⟨pending', name :: seen⟩

/-- Some number of turns, one after the other. -/
inductive Turns (graph : Table κ (List κ)) : Nat → Search κ → Search κ → Prop
  | done {s : Search κ} : Turns graph 0 s s
  | turn {n : Nat} {s s' s'' : Search κ} (hfirst : Turn graph s s') (hothers : Turns graph n s' s'') :
      Turns graph (n + 1) s s''

/-- The pending names, and all steps from names that are not marked. -/
def work (graph : Table κ (List κ)) (s : Search κ) : Nat :=
  s.pending.length + ((graph.entries.filter (·.1 ∉ s.seen)).flatMap (·.2)).length

/-! ### The end of a search -/

variable {s s' : Search κ} {n : Nat}

/-- Marking a name takes its own steps away from those of the names that are not marked. -/
private theorem length_unseen_eq {name : κ} {seen : List κ} (hname : name ∉ seen) {entries : List (κ × List κ)}
    (hnodup : (entries.map Prod.fst).Nodup) :
    ((entries.filter (·.1 ∉ seen)).flatMap (·.2)).length =
      ((entries.lookup name).getD []).length + ((entries.filter (·.1 ∉ name :: seen)).flatMap (·.2)).length := by
  induction entries with
  | nil => rfl
  | cons entry entries ih =>
    rw [List.map_cons, List.nodup_cons] at hnodup
    rw [lookup_cons_eq_ite]
    by_cases he : name = entry.1
    · -- no other entry has this name
      have hothers : entries.filter (·.1 ∉ seen) = entries.filter (·.1 ∉ name :: seen) := by
        refine List.filter_congr fun e hmem => ?_
        have hne : e.1 ≠ name := fun h => hnodup.1 (he ▸ h ▸ List.mem_map_of_mem hmem)
        simp [hne]
      rw [if_pos he, List.filter_cons_of_pos (by simpa using he ▸ hname), List.filter_cons_of_neg (by simp [he]),
        List.flatMap_cons, List.length_append, hothers, Option.getD_some]
    · rw [if_neg he]
      have hne : entry.1 ≠ name := Ne.symm he
      by_cases hentry : entry.1 ∈ seen
      · rw [List.filter_cons_of_neg (by simpa using hentry), List.filter_cons_of_neg (by simp [hentry])]
        exact ih hnodup.2
      · rw [List.filter_cons_of_pos (by simpa using hentry), List.filter_cons_of_pos (by simp [hne, hentry]),
          List.flatMap_cons, List.flatMap_cons, List.length_append, List.length_append, ih hnodup.2]
        omega

/-- A turn does one unit of work. -/
theorem Turn.work_eq (h : Turn graph s s') : s.work graph = s'.work graph + 1 := by
  cases h with
  | drop htake _ =>
    have hlength := htake.length_eq
    simp only [work, List.length_cons] at hlength ⊢
    omega
  | @mark name pending rest pending' seen htake hseen hadd =>
    have hlength := htake.length_eq
    have hlength' := hadd.length_eq
    have hsteps := length_unseen_eq hseen graph.nodup
    have hsuccessors : graph.successors name = (graph.entries.lookup name).getD [] := rfl
    simp only [work, List.length_cons, List.length_append, hsuccessors] at hlength hlength' ⊢
    omega

/-- A search takes no more turns than there is work at its start. -/
theorem Turns.work_eq (h : Turns graph n s s') : s.work graph = n + s'.work graph := by
  induction h with
  | done => exact (Nat.zero_add _).symm
  | turn hfirst _ ih =>
    rw [hfirst.work_eq, ih]
    omega

/-- As long as a name is pending, there is another turn. -/
theorem exists_turn (graph : Table κ (List κ)) (h : s.pending ≠ []) : ∃ s', Turn graph s s' := by
  obtain ⟨pending, seen⟩ := s
  obtain ⟨name, rest, rfl⟩ := List.exists_cons_of_ne_nil h
  by_cases hseen : name ∈ seen
  · exact ⟨_, .drop (.refl _) hseen⟩
  · exact ⟨_, .mark (.refl _) hseen (.refl _)⟩

/-! ### What a search finds -/

open Relation

/-- What holds of a search from a name after any number of turns: it leads nowhere else than the graph does, and it
has forgotten no step from the start or from a marked name. -/
structure Faithful (graph : Table κ (List κ)) (name : κ) (s : Search κ) : Prop where
  reached : ∀ b, b ∈ s.seen ∨ b ∈ s.pending → TransGen graph.Edge name b
  started : ∀ b, graph.Edge name b → b ∈ s.seen ∨ b ∈ s.pending
  kept : ∀ a ∈ s.seen, ∀ b, graph.Edge a b → b ∈ s.seen ∨ b ∈ s.pending
  nodup : s.seen.Nodup

variable {name : κ}

theorem faithful_start (graph : Table κ (List κ)) (name : κ) : Faithful graph name (start graph name) where
  reached _ hb := .single (Table.mem_successors_iff.1 (hb.resolve_left List.not_mem_nil))
  started _ hb := .inr (Table.mem_successors_iff.2 hb)
  kept _ ha := absurd ha List.not_mem_nil
  nodup := List.nodup_nil

theorem Turn.faithful (h : Turn graph s s') (hs : Faithful graph name s) : Faithful graph name s' := by
  cases h with
  | @drop taken pending rest seen htake hseen =>
    have hmem {b : κ} : b ∈ pending ↔ b = taken ∨ b ∈ rest := htake.mem_iff.trans List.mem_cons
    -- the name that is dropped has been marked before
    have hkeep {b : κ} (hb : b ∈ seen ∨ b ∈ pending) : b ∈ seen ∨ b ∈ rest := by
      rcases hb with hb | hb
      · exact .inl hb
      · rcases hmem.1 hb with rfl | hb
        · exact .inl hseen
        · exact .inr hb
    exact ⟨fun b hb => hs.reached b (hb.imp_right fun hb => hmem.2 (.inr hb)), fun b hb => hkeep (hs.started b hb),
      fun a ha b hab => hkeep (hs.kept a ha b hab), hs.nodup⟩
  | @mark taken pending rest pending' seen htake hseen hadd =>
    have hmem {b : κ} : b ∈ pending ↔ b = taken ∨ b ∈ rest := htake.mem_iff.trans List.mem_cons
    have hmem' {b : κ} : b ∈ pending' ↔ graph.Edge taken b ∨ b ∈ rest := by
      rw [hadd.mem_iff, List.mem_append, Table.mem_successors_iff]
    have hkeep {b : κ} (hb : b ∈ seen ∨ b ∈ pending) : b ∈ taken :: seen ∨ b ∈ pending' := by
      rcases hb with hb | hb
      · exact .inl (List.mem_cons_of_mem _ hb)
      · rcases hmem.1 hb with rfl | hb
        · exact .inl List.mem_cons_self
        · exact .inr (hmem'.2 (.inr hb))
    have htaken : TransGen graph.Edge name taken := hs.reached taken (.inr (hmem.2 (.inl rfl)))
    refine ⟨?_, fun b hb => hkeep (hs.started b hb), ?_, List.nodup_cons.2 ⟨hseen, hs.nodup⟩⟩
    · rintro b (hb | hb)
      · rcases List.mem_cons.1 hb with rfl | hb
        · exact htaken
        · exact hs.reached b (.inl hb)
      · rcases hmem'.1 hb with hb | hb
        · exact htaken.tail hb
        · exact hs.reached b (.inr (hmem.2 (.inr hb)))
    · intro a ha b hab
      rcases List.mem_cons.1 ha with rfl | ha
      · exact .inr (hmem'.2 (.inl hab))
      · exact hkeep (hs.kept a ha b hab)

theorem Turns.faithful (h : Turns graph n s s') (hs : Faithful graph name s) : Faithful graph name s' := by
  induction h with
  | done => exact hs
  | turn hfirst _ ih => exact ih (hfirst.faithful hs)

/-- Once nothing is pending, the marked names are those at the end of a path. -/
theorem Faithful.mem_seen_iff (hs : Faithful graph name s) (hdone : s.pending = []) {b : κ} :
    b ∈ s.seen ↔ TransGen graph.Edge name b := by
  have hmarked {b : κ} (hb : b ∈ s.seen ∨ b ∈ s.pending) : b ∈ s.seen := hb.resolve_right (by simp [hdone])
  constructor
  · exact fun hb => hs.reached b (.inl hb)
  · intro h
    induction h with
    | single hb => exact hmarked (hs.started _ hb)
    | tail _ hbc ih => exact hmarked (hs.kept _ ih _ hbc)

end Search

/-! ### Reachable names -/

open Relation Search

theorem reachedFrom_nil (seen : List κ) : reachedFrom graph [] seen = seen := by rw [reachedFrom]

theorem reachedFrom_of_find? {name : κ} {rest seen successors : List κ} (hseen : name ∉ seen)
    (hfind : graph.find? name = some successors) :
    reachedFrom graph (name :: rest) seen = reachedFrom graph (successors ++ rest) (name :: seen) := by
  rw [reachedFrom, dif_neg (by simpa using hseen)]
  split
  · next h => rw [hfind] at h; cases h
  · next h => rw [hfind] at h; cases h; rfl

/-- The reached names are those that some search has marked at its end. -/
theorem exists_turns_reachedFrom (graph : Table κ (List κ)) (pending seen : List κ) :
    ∃ n, Turns graph n ⟨pending, seen⟩ ⟨[], reachedFrom graph pending seen⟩ := by
  fun_induction reachedFrom graph pending seen with
  | case1 seen => exact ⟨0, .done⟩
  | case2 seen name rest hseen ih =>
    obtain ⟨n, hn⟩ := ih
    exact ⟨n + 1, .turn (.drop (.refl _) (by simpa using hseen)) hn⟩
  | case3 seen name rest hseen hfind ih =>
    obtain ⟨n, hn⟩ := ih
    have hnone : graph.successors name = [] := by rw [Table.successors, hfind, Option.getD_none]
    exact ⟨n + 1, .turn (.mark (.refl _) (by simpa using hseen) (by rw [hnone, List.nil_append])) hn⟩
  | case4 seen name rest hseen successors hfind ih =>
    obtain ⟨n, hn⟩ := ih
    have hsome : graph.successors name = successors := by rw [Table.successors, hfind, Option.getD_some]
    exact ⟨n + 1, .turn (.mark (.refl _) (by simpa using hseen) (by rw [hsome])) hn⟩

/-- What is reachable is what the search from the name has marked at its end. -/
theorem exists_turns_reachable (graph : Table κ (List κ)) (name : κ) :
    ∃ n, Turns graph n (start graph name) ⟨[], reachable graph name⟩ := exists_turns_reachedFrom graph _ _

theorem nodup_reachable (graph : Table κ (List κ)) (name : κ) : (reachable graph name).Nodup := by
  obtain ⟨n, hturns⟩ := exists_turns_reachable graph name
  exact (hturns.faithful (faithful_start graph name)).nodup

/-- Exactly the names at the end of a path are reachable. -/
theorem mem_reachable_iff {a b : κ} : b ∈ reachable graph a ↔ TransGen graph.Edge a b := by
  obtain ⟨n, hturns⟩ := exists_turns_reachable graph a
  exact (hturns.faithful (faithful_start graph a)).mem_seen_iff rfl

end SchemaBindings
