import SchemaBindings.Proofs.Ancestors

/-!
# Pruning of bases

Of the types that a definition lists, its class extends the minimal ones: those that no other listed type inherits.
On interfaces without circles this loses nothing, since each name that is left out is inherited by one that is kept,
and which names are kept does not depend on the order in which they are listed (`mapBases_prunes`).
-/

namespace SchemaBindings

open Relation

/-! ### First occurrences -/

section

variable {α : Type} [BEq α]

/-- The elements of a list that pass a test, in the order in which each of them first stands in the list. -/
structure FirstOccurrences (p : α → Prop) (l kept : List α) : Prop where
  mem_iff : ∀ a, a ∈ kept ↔ a ∈ l ∧ p a
  ordered : kept.Pairwise fun a b => l.idxOf a < l.idxOf b

/-- No element stands before itself, so each is kept once. -/
theorem FirstOccurrences.nodup {p : α → Prop} {l kept : List α} (h : FirstOccurrences p l kept) : kept.Nodup :=
  h.ordered.imp fun hab he => absurd (he ▸ hab) (Nat.lt_irrefl _)

/-- A list without its repetitions: each element stays where it came first. -/
theorem firstOccurrences_eraseDups [LawfulBEq α] (l : List α) : FirstOccurrences (fun _ => True) l l.eraseDups where
  mem_iff a := by rw [List.mem_eraseDups, and_true]
  ordered := by
    induction l using List.reverseRecOn with
    | nil => exact .nil
    | append_singleton l c ih =>
      rw [List.eraseDups_append, List.pairwise_append]
      have hbefore {a : α} (ha : a ∈ l) : (l ++ [c]).idxOf a = l.idxOf a := List.idxOf_append_of_mem ha
      refine ⟨ih.imp_of_mem fun ha hb hab => ?_, ?_, fun a ha b hb => ?_⟩
      · rwa [hbefore (List.mem_eraseDups.1 ha), hbefore (List.mem_eraseDups.1 hb)]
      · by_cases hc : c ∈ l <;> simp [List.removeAll, hc, List.eraseDups_cons]
      · -- the last element is kept only if it is new
        have ha : a ∈ l := List.mem_eraseDups.1 ha
        obtain ⟨hb, hnew⟩ := List.mem_filter.1 (List.mem_eraseDups.1 hb)
        have hnew : b ∉ l := by simpa using hnew
        rw [hbefore ha, List.idxOf_append_of_notMem hnew]
        have := List.idxOf_lt_length_of_mem ha
        omega

end

namespace Scope

/-! ### Kept names -/

variable {s : Scope} {owner : String} {names names' : List String} {bases : List Reference}

/-- Does no listed name inherit this one? -/
def IsMinimal (s : Scope) (names : List String) (n : String) : Prop :=
  ∀ m ∈ names, ¬ TransGen s.interfaces.Edge m n

/-- The bases are what is left of the listed names without those that other listed names inherit. -/
structure Prunes (s : Scope) (owner : String) (names : List String) (bases : List Reference) : Prop where
  /-- The minimal names are kept, in the order in which they first stand in the list. -/
  kept : FirstOccurrences (s.IsMinimal names) names (bases.map Reference.schemaName)
  /-- Each base is what its name means. -/
  resolved : ∀ r ∈ bases, s.resolveName r.schemaName (some owner) = .ok r
  /-- The class extends each target once, in the order of the bases. -/
  targets : FirstOccurrences (fun _ => True) (bases.map Reference.target) (baseNames bases)
  /-- No kept name inherits another. -/
  apart : ∀ r ∈ bases, ∀ r' ∈ bases, ¬ TransGen s.interfaces.Edge r.schemaName r'.schemaName
  /-- A name that is left out is inherited by one that is kept. -/
  covered : ∀ n ∈ names, n ∉ bases.map Reference.schemaName → ∃ r ∈ bases, TransGen s.interfaces.Edge r.schemaName n

theorem firstOccurrences_minimalNames (s : Scope) (names : List String) :
    FirstOccurrences (s.IsMinimal names) names (s.minimalNames names) where
  mem_iff n := by simp only [mem_minimalNames, IsMinimal, mem_ancestors_iff]
  ordered := (firstOccurrences_eraseDups names).ordered.filter _

/-- The bases have the minimal names. -/
theorem map_schemaName_of_mapBases (h : s.mapBases owner names = .ok bases) :
    bases.map Reference.schemaName = s.minimalNames names := by
  rw [map_eq_of_mapM h fun _ _ => schemaName_of_resolveName, List.map_id']

theorem prunes_of_mapBases (hacyclic : ∀ n, ¬ TransGen s.interfaces.Edge n n)
    (h : s.mapBases owner names = .ok bases) : s.Prunes owner names bases := by
  have hnames := map_schemaName_of_mapBases h
  have hkept : FirstOccurrences (s.IsMinimal names) names (bases.map Reference.schemaName) :=
    hnames ▸ firstOccurrences_minimalNames s names
  have hminimal {r : Reference} (hr : r ∈ bases) : r.schemaName ∈ names ∧ s.IsMinimal names r.schemaName :=
    (hkept.mem_iff _).1 (List.mem_map_of_mem hr)
  refine ⟨hkept, fun r hr => ?_, firstOccurrences_eraseDups _, fun r hr r' hr' => ?_, fun n hn hout => ?_⟩
  · obtain ⟨n, -, hresolve⟩ := exists_of_mem_mapM h hr
    rwa [schemaName_of_resolveName hresolve]
  · exact (hminimal hr').2 _ (hminimal hr).1
  · have hacyclic (k : String) : k ∉ s.ancestors k := mt mem_ancestors_iff.1 (hacyclic k)
    obtain ⟨m, hm, hmn⟩ := exists_minimal_above hacyclic hn
    rw [← hnames] at hm
    rcases hmn with rfl | hmn
    · exact absurd hm hout
    · obtain ⟨r, hr, rfl⟩ := List.mem_map.1 hm
      exact ⟨r, hr, mem_ancestors_iff.1 hmn⟩

/-- Another order of the list has the same minimal names. -/
theorem minimalNames_perm (h : names'.Perm names) : (s.minimalNames names').Perm (s.minimalNames names) := by
  have hkept := firstOccurrences_minimalNames s names
  have hkept' := firstOccurrences_minimalNames s names'
  refine (List.perm_ext_iff_of_nodup hkept'.nodup hkept.nodup).2 fun n => ?_
  simp only [hkept.mem_iff, hkept'.mem_iff, IsMinimal, h.mem_iff]

/-- On interfaces without circles, names that all mean something yield the bases that pruning leaves, and in another
order the same names are kept. -/
theorem mapBases_prunes (hacyclic : ∀ n, ¬ TransGen s.interfaces.Edge n n)
    (hnames : ∀ n ∈ names, ∃ r, s.resolveName n (some owner) = .ok r) :
    ∃ bases, s.mapBases owner names = .ok bases ∧ s.Prunes owner names bases ∧
      ∀ names', names'.Perm names → ∃ bases', s.mapBases owner names' = .ok bases' ∧
        (bases'.map Reference.schemaName).Perm (bases.map Reference.schemaName) := by
  have hok {names' : List String} (h : names'.Perm names) : ∃ bases, s.mapBases owner names' = .ok bases :=
    exists_mapM_eq_ok fun n hn => hnames n (h.mem_iff.1 (mem_minimalNames.1 hn).1)
  obtain ⟨bases, hbases⟩ := hok (.refl names)
  refine ⟨bases, hbases, prunes_of_mapBases hacyclic hbases, fun names' h => ?_⟩
  obtain ⟨bases', hbases'⟩ := hok h
  refine ⟨bases', hbases', ?_⟩
  rw [map_schemaName_of_mapBases hbases, map_schemaName_of_mapBases hbases']
  exact minimalNames_perm h

/-- Of two resources that have one custom class and their node, only the resources are kept. -/
theorem mapBases_prunes_node :
    let documents := [[.interface ⟨"Node", none, [], []⟩, .interface ⟨"File", none, ["Node"], []⟩,
      .interface ⟨"Page", none, ["Node"], []⟩]]
    let s := ofRun { Options.unset with customTypes := Table.ofList [("File", "disk.Item"), ("Page", "web.Item")] }
      documents
    let names := ["Node", "File", "Node", "Page", "File"]
    (∀ n, ¬ TransGen s.interfaces.Edge n n) ∧ (∀ n ∈ names, ∃ r, s.resolveName n (some "Report") = .ok r) ∧
      ∃ bases, s.mapBases "Report" names = .ok bases ∧ s.Prunes "Report" names bases ∧
        "Node" ∉ bases.map Reference.schemaName ∧ ∃ r ∈ bases, TransGen s.interfaces.Edge r.schemaName "Node" := by
  intro documents s names
  have hedge {a b : String} (h : s.interfaces.Edge a b) : a ≠ "Node" ∧ b = "Node" := by
    obtain ⟨type, htype, rfl, hb⟩ := exists_of_edge_ofRun h
    have hall : ∀ d ∈ documents.flatten, ∀ type, d = .interface type → ∀ b ∈ type.interfaces,
        type.name ≠ "Node" ∧ b = "Node" := by simp [documents]
    exact hall _ htype type rfl b hb
  have hacyclic (n : String) : ¬ TransGen s.interfaces.Edge n n := by
    intro h
    obtain ⟨k, hnk, -⟩ := TransGen.head'_iff.1 h
    obtain ⟨j, -, hjn⟩ := TransGen.tail'_iff.1 h
    exact (hedge hnk).1 (hedge hjn).2
  have hnames : ∀ n ∈ names, ∃ r, s.resolveName n (some "Report") = .ok r := by
    have hall : ∀ n ∈ names, (s.resolveName n (some "Report")).toOption.isSome = true := by decide +kernel
    exact fun n hn => exists_eq_ok_of_isSome (hall n hn)
  obtain ⟨bases, hbases, hprunes, -⟩ := mapBases_prunes hacyclic hnames
  have hfile : s.interfaces.Edge "File" "Node" :=
    ⟨["Node"], by decide +kernel, List.mem_singleton.2 rfl⟩
  have hout : "Node" ∉ bases.map Reference.schemaName := fun hmem =>
    ((hprunes.kept.mem_iff "Node").1 hmem).2 "File" (by decide) (.single hfile)
  exact ⟨hacyclic, hnames, bases, hbases, hprunes, hout, hprunes.covered "Node" (by decide) hout⟩

end Scope

end SchemaBindings
