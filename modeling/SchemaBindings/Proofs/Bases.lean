import SchemaBindings.Mapping
import SchemaBindings.Proofs.Meaning
import SchemaBindings.Proofs.Reachability

/-!
# Bases of classes

A class extends the classes of the minimal names among those it lists: the names that no other listed name inherits
(`mem_minimalNames`). As long as a name has a class of its own, it is a base of a class exactly if it is one of these
names (`className_mem_baseNames_iff`).
-/

namespace SchemaBindings

open Schema Relation

/-! ### Definitions and their names -/

theorem eq_of_nodup_filterMap {α β : Type} {f : α → Option β} {l : List α} (h : (l.filterMap f).Nodup)
    {a a' : α} (ha : a ∈ l) (ha' : a' ∈ l) {b : β} (hb : f a = some b) (hb' : f a' = some b) : a = a' := by
  induction l with
  | nil => cases ha
  | cons x l ih =>
    have hrest : (l.filterMap f).Nodup := h.sublist ((List.sublist_cons_self x l).filterMap f)
    have hnew (hx : f x = some b) {y : α} (hy : y ∈ l) : f y ≠ some b := by
      intro hby
      rw [List.filterMap_cons_some hx, List.nodup_cons] at h
      exact h.1 (List.mem_filterMap.2 ⟨y, hy, hby⟩)
    rcases List.mem_cons.1 ha with rfl | hrest₁ <;> rcases List.mem_cons.1 ha' with rfl | hrest₂
    · rfl
    · exact absurd hb' (hnew hb hrest₂)
    · exact absurd hb (hnew hb' hrest₁)
    · exact ih hrest hrest₁ hrest₂

/-- If no two definitions of a run define types of one name, the name tells the definition. -/
theorem definition_unique {documents : List Document} (h : (typeNames documents).Nodup) {d d' : Definition}
    (hd : d ∈ documents.flatten) (hd' : d' ∈ documents.flatten) {n : String} (hn : d.typeName? = some n)
    (hn' : d'.typeName? = some n) : d = d' :=
  eq_of_nodup_filterMap h hd hd' hn hn'

namespace Schema.Definition

/-- The interfaces that a definition says its type implements. -/
def implements : Definition → List String
  | object type | interface type => type.interfaces
  | _ => []

end Schema.Definition

/-- The interfaces that documents define. -/
def interfaceNames (documents : List Document) : List String :=
  documents.flatten.filterMap fun
    | .interface type => some type.name
    | _ => none

/-- Do the types of a run implement nothing but interfaces of the run? -/
def ImplementsInterfaces (documents : List Document) : Prop :=
  ∀ d ∈ documents.flatten, ∀ n ∈ d.implements, n ∈ interfaceNames documents

instance (documents : List Document) : Decidable (ImplementsInterfaces documents) := by
  unfold ImplementsInterfaces
  infer_instance

theorem mem_interfaceNames {documents : List Document} {n : String} :
    n ∈ interfaceNames documents ↔ ∃ type, .interface type ∈ documents.flatten ∧ type.name = n := by
  simp only [interfaceNames, List.mem_filterMap]
  constructor
  · rintro ⟨d, hd, he⟩
    cases d <;> simp at he
    exact ⟨_, hd, he⟩
  · rintro ⟨type, hd, he⟩
    exact ⟨_, hd, congrArg some he⟩

/-- The classes that the class of the module extends. -/
def Module.baseClasses (m : Module) : List String :=
  match m.body with
  | .record _ _ bases => baseNames bases
  | _ => []

namespace Scope

/-! ### Interfaces and their ancestors -/

/-- The interfaces of an entry are those that an interface of this name implements. -/
theorem interface_of_find? {o : Options} {documents : List Document} {a : String} {successors : List String}
    (h : (ofRun o documents).interfaces.find? a = some successors) :
    ∃ type, .interface type ∈ documents.flatten ∧ type.name = a ∧ type.interfaces = successors := by
  have h : (Table.ofList _).find? a = some successors := h
  rw [Table.find?_ofList, List.lookup_eq_some_iff] at h
  obtain ⟨before, after, he, -⟩ := h
  have hmem : (a, successors) ∈ before ++ (a, successors) :: after := by simp
  rw [← he, List.mem_reverse] at hmem
  obtain ⟨d, hd, he⟩ := List.mem_filterMap.1 hmem
  cases d <;> simp at he
  exact ⟨_, hd, he⟩

/-- The interfaces of a run point to those they say they implement. -/
theorem exists_of_edge_ofRun {o : Options} {documents : List Document} {a b : String}
    (h : (ofRun o documents).interfaces.Edge a b) :
    ∃ type, .interface type ∈ documents.flatten ∧ type.name = a ∧ b ∈ type.interfaces := by
  obtain ⟨successors, hfind, hb⟩ := h
  obtain ⟨type, htype, hname, rfl⟩ := interface_of_find? hfind
  exact ⟨type, htype, hname, hb⟩

/-- An interface of the run has an entry. -/
theorem exists_find?_of_interface {o : Options} {documents : List Document} {type : FieldedDefinition}
    (htype : .interface type ∈ documents.flatten) :
    ∃ successors, (ofRun o documents).interfaces.find? type.name = some successors := by
  rw [← Option.isSome_iff_exists]
  show ((Table.ofList _).find? type.name).isSome
  rw [Table.find?_ofList, List.lookup_isSome_iff]
  exact ⟨(type.name, type.interfaces), List.mem_reverse.2 (List.mem_filterMap.2 ⟨_, htype, rfl⟩), by simp⟩

/-- If no interface is defined twice, the entries are the interfaces of the run. -/
theorem find?_interfaces_ofRun_iff {o : Options} {documents : List Document} (h : (interfaceNames documents).Nodup)
    {a : String} {successors : List String} :
    (ofRun o documents).interfaces.find? a = some successors ↔
      ∃ type, .interface type ∈ documents.flatten ∧ type.name = a ∧ type.interfaces = successors := by
  constructor
  · exact interface_of_find?
  · rintro ⟨type, htype, rfl, rfl⟩
    obtain ⟨successors, hfind⟩ := exists_find?_of_interface (o := o) htype
    obtain ⟨type', htype', hname, he⟩ := interface_of_find? hfind
    cases eq_of_nodup_filterMap h htype htype' rfl (congrArg some hname)
    rw [hfind, he]

/-- With distinct names, each interface points to all those it implements. -/
theorem edge_ofRun {o : Options} {documents : List Document} (h : (typeNames documents).Nodup)
    {type : FieldedDefinition} (htype : .interface type ∈ documents.flatten) {b : String} (hb : b ∈ type.interfaces) :
    (ofRun o documents).interfaces.Edge type.name b := by
  obtain ⟨successors, hfind⟩ := exists_find?_of_interface (o := o) htype
  obtain ⟨type', htype', hname, he⟩ := interface_of_find? hfind
  cases definition_unique h htype htype' rfl (congrArg some hname)
  exact ⟨successors, hfind, he ▸ hb⟩

theorem mem_ancestors_iff {s : Scope} {a b : String} : b ∈ s.ancestors a ↔ TransGen s.interfaces.Edge a b :=
  mem_reachable_iff

/-- Every ancestor is implemented somewhere. -/
theorem exists_implements_of_mem_ancestors {o : Options} {documents : List Document} {a b : String}
    (h : b ∈ (ofRun o documents).ancestors a) : ∃ d ∈ documents.flatten, b ∈ d.implements := by
  obtain ⟨c, -, hcb⟩ := TransGen.tail'_iff.1 (mem_ancestors_iff.1 h)
  obtain ⟨type, hd, -, hb⟩ := exists_of_edge_ofRun hcb
  exact ⟨.interface type, hd, hb⟩

/-! ### Minimal names -/

variable {s : Scope} {names : List String} {n : String}

/-- A name is minimal if no listed name inherits it. -/
theorem mem_minimalNames : n ∈ s.minimalNames names ↔ n ∈ names ∧ ∀ m ∈ names, n ∉ s.ancestors m := by
  simp [minimalNames, List.mem_filter, List.mem_eraseDups]

/-! ### Classes of their own -/

/-- Every name that a reference may use. -/
def meaningfulNames (s : Scope) : List String := builtinScalars.map Prod.fst ++ s.targets.table.keys ++ s.known

/-- The class or type that a name means. -/
def targetOf? (s : Scope) (n : String) : Option String := (s.resolveName n none).toOption.map Reference.target

/-- Does the name mean a class of the run, and no other name a class of the same name? -/
structure HasOwnClass (s : Scope) (n : String) : Prop where
  generates : s.Generates n
  unique : ∀ m ∈ s.meaningfulNames, s.targetOf? m = some (s.className n) → m = n

instance (s : Scope) (n : String) : Decidable (s.Generates n) :=
  decidable_of_iff (builtinScalars.lookup n = none ∧ s.targets.find? n = none ∧ n ∈ s.known)
    ⟨fun ⟨hb, ht, hk⟩ => ⟨hb, ht, hk⟩, fun ⟨hb, ht, hk⟩ => ⟨hb, ht, hk⟩⟩

instance (s : Scope) (n : String) : Decidable (s.HasOwnClass n) :=
  decidable_of_iff (s.Generates n ∧ ∀ m ∈ s.meaningfulNames, s.targetOf? m = some (s.className n) → m = n)
    ⟨fun ⟨hg, hu⟩ => ⟨hg, hu⟩, fun ⟨hg, hu⟩ => ⟨hg, hu⟩⟩

private theorem mem_meaningfulNames {context : Option String} {r : Reference}
    (h : s.resolveName n context = .ok r) : n ∈ s.meaningfulNames := by
  cases resolveName_eq_ok_iff.1 h with
  | builtin hbuiltin =>
    obtain ⟨before, after, he, -⟩ := List.lookup_eq_some_iff.1 hbuiltin
    simp [meaningfulNames, he]
  | imported _ htarget | expression _ htarget =>
    simp [meaningfulNames, Table.mem_keys_of_find? (t := s.targets.table) htarget]
  | generated hgenerates => simp [meaningfulNames, hgenerates.known]

/-- Where a name is used does not matter to its meaning. -/
theorem resolveName_of_ok {context context' : Option String} {r : Reference} (h : s.resolveName n context = .ok r) :
    s.resolveName n context' = .ok r :=
  resolveName_eq_ok_iff.2 (resolveName_eq_ok_iff.1 h)

/-- A class of its own is meant by its name alone. -/
theorem HasOwnClass.target_eq_iff (h : s.HasOwnClass n) {m : String} {context : Option String} {r : Reference}
    (hr : s.resolveName m context = .ok r) : r.target = s.className n ↔ m = n := by
  constructor
  · intro he
    have ht : s.targetOf? m = some r.target := by
      rw [targetOf?, resolveName_of_ok hr]
      rfl
    exact h.unique m (mem_meaningfulNames hr) (by rw [ht, he])
  · rintro rfl
    rw [h.generates.resolveName] at hr
    cases hr
    rfl

theorem HasOwnClass.eq_of_className (h : s.HasOwnClass n) {m : String} (hm : s.HasOwnClass m)
    (he : s.className m = s.className n) : m = n :=
  (h.target_eq_iff (hm.generates.resolveName none)).1 he

/-- A class of its own is a base exactly if its name is minimal. -/
theorem className_mem_baseNames_iff (h : s.HasOwnClass n) {owner : String} {bases : List Reference}
    (hbases : s.mapBases owner names = .ok bases) :
    s.className n ∈ baseNames bases ↔ n ∈ s.minimalNames names := by
  rw [baseNames, List.mem_eraseDups, List.mem_map]
  constructor
  · rintro ⟨r, hr, ht⟩
    obtain ⟨m, hm, hresolve⟩ := exists_of_mem_mapM hbases hr
    exact (h.target_eq_iff hresolve).1 ht ▸ hm
  · intro hn
    obtain ⟨r, hr, hresolve⟩ := exists_mem_of_mapM hbases hn
    exact ⟨r, hr, (h.target_eq_iff hresolve).2 rfl⟩

end Scope

end SchemaBindings
