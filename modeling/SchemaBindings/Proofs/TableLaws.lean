import SchemaBindings.Proofs.Lookup

/-!
# Laws of tables

However often keys are given values, each key stands where it came first (`keys_foldl`). With what is found under the
keys this determines a table, and so it shows that tables merge associatively, with the empty table as the neutral
element, and that a table merged with itself stays as it is.
-/

namespace SchemaBindings

/-! ### Lists without repetitions -/

section

variable {α : Type} [BEq α] [LawfulBEq α]

theorem eraseDups_of_nodup {l : List α} (h : l.Nodup) : l.eraseDups = l := by
  induction l with
  | nil => rfl
  | cons a l ih =>
    obtain ⟨ha, hl⟩ := List.nodup_cons.1 h
    have hkeep : l.filter (fun b => !b == a) = l := by
      refine List.filter_eq_self.2 fun b hb => ?_
      have hne : b ≠ a := fun he => ha (he ▸ hb)
      simpa using hne
    rw [List.eraseDups_cons, hkeep, ih hl]

theorem eraseDups_concat (l : List α) (a : α) [Decidable (a ∈ l)] :
    (l ++ [a]).eraseDups = if a ∈ l then l.eraseDups else l.eraseDups ++ [a] := by
  rw [List.eraseDups_append]
  by_cases ha : a ∈ l <;> simp [List.removeAll, ha, List.eraseDups_cons]

end

namespace Table

variable {κ α : Type} [DecidableEq κ]

/-! ### Keys -/

theorem eraseDups_keys (t : Table κ α) : t.keys.eraseDups = t.keys := eraseDups_of_nodup t.nodup

theorem keys_putIfAbsent (t : Table κ α) (key : κ) (value : α) :
    (t.putIfAbsent key value).keys = if key ∈ t.keys then t.keys else t.keys ++ [key] := by
  unfold putIfAbsent
  split
  · next h => rw [if_pos (contains_iff.1 h)]
  · exact keys_put t key value

/-- Whether values are put in place of others or not, keys stand in the order in which they came first. -/
theorem keys_foldl {give : Table κ α → κ × α → Table κ α}
    (hgive : ∀ t pair, (give t pair).keys = if pair.1 ∈ t.keys then t.keys else t.keys ++ [pair.1])
    (pairs : List (κ × α)) {t : Table κ α} {came : List κ} (h : t.keys = came.eraseDups) :
    (pairs.foldl give t).keys = (came ++ pairs.map Prod.fst).eraseDups := by
  induction pairs generalizing t came with
  | nil => rw [List.foldl_nil, List.map_nil, List.append_nil, h]
  | cons pair pairs ih =>
    have hkeys : (give t pair).keys = (came ++ [pair.1]).eraseDups := by
      simp only [hgive, h, List.mem_eraseDups, eraseDups_concat]
    rw [List.foldl_cons, ih hkeys, List.map_cons, List.append_assoc, List.singleton_append]

/-- New keys come behind the old ones. -/
theorem keys_merge (s t : Table κ α) : (s.merge t).keys = s.keys ++ t.keys.filter (· ∉ s.keys) := by
  have hkeys : (s.merge t).keys = (s.keys ++ t.keys).eraseDups :=
    keys_foldl (fun t pair => keys_putIfAbsent t pair.1 pair.2) t.entries s.eraseDups_keys.symm
  have hnew : t.keys.removeAll s.keys = t.keys.filter (· ∉ s.keys) := by
    refine List.filter_congr fun k _ => ?_
    simp
  have hnodup : (t.keys.filter (· ∉ s.keys)).Nodup := List.Pairwise.filter _ t.nodup
  rw [hkeys, List.eraseDups_append, eraseDups_keys, hnew, eraseDups_of_nodup hnodup]

/-! ### Merging -/

theorem merge_assoc (r s t : Table κ α) : r.merge (s.merge t) = (r.merge s).merge t := by
  refine ext_find? ?_ fun k => ?_
  · have hnew : (t.keys.filter (· ∉ s.keys)).filter (· ∉ r.keys) =
        t.keys.filter (· ∉ r.keys ++ s.keys.filter (· ∉ r.keys)) := by
      rw [List.filter_filter]
      refine List.filter_congr fun k _ => ?_
      by_cases hk : k ∈ r.keys <;> simp [hk]
    rw [keys_merge, keys_merge, keys_merge, keys_merge, List.filter_append, hnew, List.append_assoc]
  · rw [find?_merge, find?_merge, find?_merge, find?_merge, Option.or_assoc]

theorem merge_empty (t : Table κ α) : t.merge empty = t := rfl

theorem empty_merge (t : Table κ α) : empty.merge t = t := by
  refine ext_find? ?_ fun k => ?_
  · have hnone : (empty : Table κ α).keys = [] := rfl
    rw [keys_merge, hnone]
    simp
  · rw [find?_merge, find?_empty, Option.none_or]

theorem merge_self (t : Table κ α) : t.merge t = t := by
  refine ext_find? ?_ fun k => ?_
  · have hnone : t.keys.filter (· ∉ t.keys) = [] := by simp
    rw [keys_merge, hnone, List.append_nil]
  · rw [find?_merge, Option.or_self]

end Table

end SchemaBindings
