/-!
# Ordered tables

A table gives each key one value and remembers the order in which the keys came. Putting a value under a key that is
there replaces the value in its place; a new key goes to the end.
-/

namespace SchemaBindings

/-- Sets the value of a key in a list of entries: in place if the key is there, else at the end. -/
def assign {κ α : Type} [DecidableEq κ] (key : κ) (value : α) : List (κ × α) → List (κ × α)
  | [] => [(key, value)]
  | entry :: entries => if entry.1 = key then (key, value) :: entries else entry :: assign key value entries

/-- The keys after an assignment: as before, with a new key at the end. -/
theorem map_fst_assign {κ α : Type} [DecidableEq κ] (key : κ) (value : α) (entries : List (κ × α)) :
    (assign key value entries).map Prod.fst =
      if key ∈ entries.map Prod.fst then entries.map Prod.fst else entries.map Prod.fst ++ [key] := by
  induction entries with
  | nil => simp [assign]
  | cons entry entries ih =>
    by_cases h : entry.1 = key
    · simp [assign, h]
    · have h' : ¬ key = entry.1 := fun e => h e.symm
      simp only [assign, h, if_false, List.map_cons, ih, List.mem_cons, h', false_or]
      split <;> simp

theorem lookup_cons_eq_ite {κ α : Type} [DecidableEq κ] (k : κ) (entry : κ × α) (entries : List (κ × α)) :
    (entry :: entries).lookup k = if k = entry.1 then some entry.2 else entries.lookup k := by
  rw [List.lookup_cons]
  by_cases h : k = entry.1
  · simp [h]
  · have : (k == entry.1) = false := by simpa using h
    simp [this, h]

private theorem lookup_assign {κ α : Type} [DecidableEq κ] (key k : κ) (value : α) (entries : List (κ × α)) :
    (assign key value entries).lookup k = if k = key then some value else entries.lookup k := by
  induction entries with
  | nil => rw [assign, lookup_cons_eq_ite]
  | cons entry entries ih =>
    by_cases he : entry.1 = key
    · simp only [assign, he, ↓reduceIte, lookup_cons_eq_ite]
      split <;> rfl
    · simp only [assign, he, ↓reduceIte, lookup_cons_eq_ite, ih]
      by_cases h : k = key
      · have : k ≠ entry.1 := fun e => he (e.symm.trans h)
        simp [h ▸ this, h]
      · simp [h]

/-- Entries with pairwise distinct keys, in order of arrival. -/
structure Table (κ α : Type) where
  entries : List (κ × α)
  nodup : (entries.map Prod.fst).Nodup

namespace Table

/-- Tables with the same entries are the same. -/
theorem ext_entries {κ α : Type} {s t : Table κ α} (h : s.entries = t.entries) : s = t := by
  cases s; cases t; cases h; rfl

variable {κ α : Type} [DecidableEq κ]

/-- The table without entries. -/
def empty : Table κ α := ⟨[], List.nodup_nil⟩

instance : Inhabited (Table κ α) := ⟨empty⟩

/-- The keys, in order of arrival. -/
def keys (t : Table κ α) : List κ := t.entries.map Prod.fst

/-- The value of a key. -/
def find? (t : Table κ α) (key : κ) : Option α := t.entries.lookup key

/-- Only keys have values. -/
theorem mem_keys_of_find? {t : Table κ α} {key : κ} {value : α} (h : t.find? key = some value) : key ∈ t.keys := by
  rcases Decidable.em (key ∈ t.keys) with hk | hk
  · exact hk
  · have : t.entries.lookup key = none := by
      rw [List.lookup_eq_none_iff]
      intro entry he
      have : key ≠ entry.1 := fun e => hk (e ▸ List.mem_map_of_mem he)
      simpa using this
    rw [find?, this] at h
    cases h

/-- Has the key a value? -/
def contains (t : Table κ α) (key : κ) : Bool := (t.find? key).isSome

/-- Sets the value of a key, whether or not it has one. -/
def put (t : Table κ α) (key : κ) (value : α) : Table κ α where
  entries := assign key value t.entries
  nodup := by
    rw [map_fst_assign]
    split
    · exact t.nodup
    · next h =>
      refine List.nodup_append.2 ⟨t.nodup, by simp, ?_⟩
      intro a ha b hb
      rw [List.mem_singleton] at hb
      exact fun e => h (hb ▸ e ▸ ha)

theorem find?_put (t : Table κ α) (key k : κ) (value : α) :
    (t.put key value).find? k = if k = key then some value else t.find? k :=
  lookup_assign key k value t.entries

theorem keys_put (t : Table κ α) (key : κ) (value : α) :
    (t.put key value).keys = if key ∈ t.keys then t.keys else t.keys ++ [key] := map_fst_assign key value t.entries

/-- Sets the value of a key that has none. -/
def putIfAbsent (t : Table κ α) (key : κ) (value : α) : Table κ α :=
  if t.contains key then t else t.put key value

/-- The table of a list of pairs; of several values for one key the last one counts. -/
def ofList (pairs : List (κ × α)) : Table κ α := pairs.foldl (fun t pair => t.put pair.1 pair.2) empty

/-- The entries of `s`, then those of `t` whose keys `s` lacks. -/
def merge (s t : Table κ α) : Table κ α := t.entries.foldl (fun acc pair => acc.putIfAbsent pair.1 pair.2) s

end Table

end SchemaBindings
