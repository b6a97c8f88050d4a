import SchemaBindings.Scope

/-!
# What tables and targets answer

Each operation on tables is described by what is found under a key afterwards; nothing else about a table matters to
the meaning of names. The targets of a run answer with the custom type of a name, and otherwise with a text for the
scalars that the documents define (`find?_registerScalars`).
-/

namespace SchemaBindings

/-! ### Ascending lists -/

theorem mem_insertAscending {α : Type} [BEq α] [LawfulBEq α] (less : α → α → Bool) {x y : α} {l : List α} :
    y ∈ insertAscending less x l ↔ y = x ∨ y ∈ l := by
  induction l with
  | nil => simp [insertAscending]
  | cons a l ih =>
    unfold insertAscending
    split
    · next h =>
      have hxa : x = a := eq_of_beq h
      subst hxa
      simp
    · split
      · simp
      · simp only [List.mem_cons, ih]
        exact or_left_comm

theorem mem_ascending {α : Type} [BEq α] [LawfulBEq α] (less : α → α → Bool) {y : α} {l : List α} :
    y ∈ ascending less l ↔ y ∈ l := by
  induction l with
  | nil => simp [ascending]
  | cons a l ih =>
    have : ascending less (a :: l) = insertAscending less a (ascending less l) := rfl
    rw [this, mem_insertAscending, ih, List.mem_cons]

theorem mem_ascendingTexts {y : String} {l : List String} : y ∈ ascendingTexts l ↔ y ∈ l := mem_ascending _

/-! ### Tables -/

variable {κ α : Type} [DecidableEq κ]

private theorem assign_of_not_mem {key : κ} {value : α} {entries : List (κ × α)}
    (h : key ∉ entries.map Prod.fst) : assign key value entries = entries ++ [(key, value)] := by
  induction entries with
  | nil => rfl
  | cons entry entries ih =>
    simp only [List.map_cons, List.mem_cons, not_or] at h
    simp [assign, Ne.symm h.1, ih h.2]

namespace Table

theorem find?_empty (k : κ) : (empty : Table κ α).find? k = none := rfl

theorem find?_foldl_put (pairs : List (κ × α)) (t : Table κ α) (k : κ) :
    (pairs.foldl (fun t pair => t.put pair.1 pair.2) t).find? k = (pairs.reverse.lookup k).or (t.find? k) := by
  induction pairs generalizing t with
  | nil => rfl
  | cons pair pairs ih =>
    rw [List.foldl_cons, ih, find?_put, List.reverse_cons, List.lookup_append, Option.or_assoc, lookup_cons_eq_ite]
    split <;> rfl

/-- Of several values for one key the last one is found. -/
theorem find?_ofList (pairs : List (κ × α)) (k : κ) : (ofList pairs).find? k = pairs.reverse.lookup k := by
  rw [ofList, find?_foldl_put, find?_empty, Option.or_none]

private theorem entries_foldl_put (pairs : List (κ × α)) (t : Table κ α)
    (h : ((t.entries ++ pairs).map Prod.fst).Nodup) :
    (pairs.foldl (fun t pair => t.put pair.1 pair.2) t).entries = t.entries ++ pairs := by
  induction pairs generalizing t with
  | nil => simp
  | cons pair pairs ih =>
    have hnew : pair.1 ∉ t.entries.map Prod.fst := by
      intro hm
      rw [List.map_append, List.map_cons, List.nodup_append] at h
      exact h.2.2 _ hm _ List.mem_cons_self rfl
    have hput : (t.put pair.1 pair.2).entries = t.entries ++ [pair] := assign_of_not_mem hnew
    have happ : (t.put pair.1 pair.2).entries ++ pairs = t.entries ++ pair :: pairs := by simp [hput]
    rw [List.foldl_cons, ih _ (by rwa [happ]), happ]

theorem find?_putIfAbsent (t : Table κ α) (key k : κ) (value : α) :
    (t.putIfAbsent key value).find? k = (t.find? k).or (if k = key then some value else none) := by
  unfold putIfAbsent
  split
  · next h =>
    by_cases hk : k = key
    · obtain ⟨found, hfound⟩ := Option.isSome_iff_exists.1 h
      rw [hk, hfound, Option.some_or]
    · rw [if_neg hk, Option.or_none]
  · next h =>
    have hnone : t.find? key = none := by simpa [contains] using h
    rw [find?_put]
    by_cases hk : k = key
    · rw [if_pos hk, if_pos hk, hk, hnone, Option.none_or]
    · rw [if_neg hk, if_neg hk, Option.or_none]

theorem find?_foldl_putIfAbsent (pairs : List (κ × α)) (t : Table κ α) (k : κ) :
    (pairs.foldl (fun t pair => t.putIfAbsent pair.1 pair.2) t).find? k = (t.find? k).or (pairs.lookup k) := by
  induction pairs generalizing t with
  | nil => exact (Option.or_none).symm
  | cons pair pairs ih =>
    rw [List.foldl_cons, ih, find?_putIfAbsent, Option.or_assoc, lookup_cons_eq_ite]
    split <;> simp

/-- What the first table has, it keeps; the rest comes from the second. -/
theorem find?_merge (s t : Table κ α) (k : κ) : (s.merge t).find? k = (s.find? k).or (t.find? k) :=
  find?_foldl_putIfAbsent t.entries s k

/-- A table is the table of its entries. -/
theorem ofList_entries (t : Table κ α) : ofList t.entries = t := by
  apply ext_entries
  have := entries_foldl_put t.entries empty (by simpa [empty] using t.nodup)
  simpa [ofList, empty] using this

/-- What is found under a key is the entry with that key. -/
theorem mem_entries_iff {t : Table κ α} {k : κ} {value : α} : (k, value) ∈ t.entries ↔ t.find? k = some value := by
  have hentries (entries : List (κ × α)) (h : (entries.map Prod.fst).Nodup) :
      (k, value) ∈ entries ↔ entries.lookup k = some value := by
    induction entries with
    | nil => simp
    | cons entry entries ih =>
      obtain ⟨key, first⟩ := entry
      rw [List.map_cons, List.nodup_cons] at h
      rw [lookup_cons_eq_ite, List.mem_cons, ih h.2, Prod.mk.injEq]
      split
      · next hk =>
        -- the key does not come again further on
        have hk : k = key := hk
        subst hk
        have hnone : entries.lookup k ≠ some value := fun hlookup =>
          h.1 (List.mem_map.2 ⟨(k, value), (ih h.2).2 hlookup, rfl⟩)
        simp [hnone, eq_comm]
      · next hk => simp [show k ≠ key from hk]
  exact hentries t.entries t.nodup

/-- A table is known by its keys and by what is found under them. -/
theorem ext_find? {s t : Table κ α} (hkeys : s.keys = t.keys) (h : ∀ k, s.find? k = t.find? k) : s = t := by
  have hentries (t : Table κ α) : t.entries.map (fun entry => (entry.1, some entry.2)) =
      t.keys.map fun k => (k, t.find? k) := by
    rw [keys, List.map_map]
    refine List.map_congr_left fun entry hentry => ?_
    rw [Function.comp_apply, mem_entries_iff.1 hentry]
  have hfind : s.find? = t.find? := funext h
  apply ext_entries
  have hmap := hentries s
  rw [hkeys, hfind, ← hentries t] at hmap
  refine (List.map_inj_right fun a b hab => ?_).1 hmap
  obtain ⟨hkey, hvalue⟩ := Prod.mk.inj hab
  exact Prod.ext hkey (Option.some.inj hvalue)

theorem contains_iff {t : Table κ α} {key : κ} : t.contains key = true ↔ key ∈ t.keys := by
  constructor
  · intro h
    obtain ⟨value, hvalue⟩ := Option.isSome_iff_exists.1 h
    exact mem_keys_of_find? hvalue
  · intro h
    obtain ⟨⟨k, value⟩, hentry, rfl⟩ := List.mem_map.1 h
    exact Option.isSome_iff_exists.2 ⟨value, mem_entries_iff.1 hentry⟩

end Table

/-! ### Targets -/

/-- The scalars that definitions introduce. -/
def scalarNames (definitions : List Schema.Definition) : List String :=
  definitions.filterMap fun
    | .scalar name => some name
    | _ => none

theorem scalarNames_scalar (name : String) (definitions : List Schema.Definition) :
    scalarNames (.scalar name :: definitions) = name :: scalarNames definitions := rfl

theorem mem_scalarNames {definitions : List Schema.Definition} {name : String} :
    name ∈ scalarNames definitions ↔ .scalar name ∈ definitions := by
  simp only [scalarNames, List.mem_filterMap]
  constructor
  · rintro ⟨d, hd, he⟩
    cases d <;> simp at he
    exact he ▸ hd
  · exact fun h => ⟨_, h, rfl⟩

namespace Targets

theorem table_offer (t : Targets) (name target : String) :
    (t.offer name target).1.table = t.table.putIfAbsent name target := by
  unfold offer Table.putIfAbsent
  split <;> rfl

theorem options_offer (t : Targets) (name target : String) : (t.offer name target).1.options = t.options := by
  unfold offer
  split <;> rfl

private theorem find?_offer (t : Targets) (name target n : String) :
    (t.offer name target).1.find? n = (t.find? n).or (if n = name then some target else none) := by
  unfold find?
  rw [table_offer, Table.find?_putIfAbsent]

/-- Scalars without a target are texts; every other target stays. -/
theorem find?_registerScalars (t : Targets) (definitions : List Schema.Definition) (n : String) :
    (t.registerScalars definitions).1.find? n =
      (t.find? n).or (if n ∈ scalarNames definitions then some scalarTarget else none) := by
  induction definitions generalizing t with
  | nil => simp [registerScalars, scalarNames]
  | cons d definitions ih =>
    cases d with
    | scalar name =>
      show ((t.offer name scalarTarget).1.registerScalars definitions).1.find? n = _
      rw [ih, find?_offer, Option.or_assoc, scalarNames_scalar]
      congr 1
      by_cases h : n = name <;> simp [h]
    | _ => exact ih t

/-- Registering scalars changes no option. -/
theorem options_registerScalars (t : Targets) (definitions : List Schema.Definition) :
    (t.registerScalars definitions).1.options = t.options := by
  induction definitions generalizing t with
  | nil => rfl
  | cons d definitions ih =>
    cases d with
    | scalar name => exact (ih _).trans (options_offer t name scalarTarget)
    | _ => exact ih t

theorem find?_ofOptions (o : Options) (n : String) : (ofOptions o).find? n = o.customTypes.find? n := by
  show (Table.ofList o.customTypes.entries).find? n = _
  rw [Table.ofList_entries]

end Targets

end SchemaBindings
