import SchemaBindings.Proofs.Places

/-!
# Closure of imports

A run is closed if every class of the run that a module refers to is generated in the package where the reference
looks for it. Classes of models always are. The class of an operation root is looked for in the package of
operations, but it is generated there only if the root is an object type and operations are asked for, or if some
model has this class and the packages agree; a run is closed exactly if this holds for every root that it refers to
(`importsClosed_iff`).
-/

namespace SchemaBindings

open Schema

/-! ### Closed runs -/

namespace Scope

/-- Does one of the modules hold the class of a reference, where an import of the reference looks for it? -/
def Provides (s : Scope) (modules : List Module) (r : Reference) : Prop :=
  ∃ m ∈ modules, m.className = r.target ∧ m.package = s.packageOf r.schemaName ∧ m.name = Naming.moduleName r.target

instance (s : Scope) (modules : List Module) (r : Reference) : Decidable (s.Provides modules r) :=
  inferInstanceAs (Decidable (∃ m ∈ modules,
    m.className = r.target ∧ m.package = s.packageOf r.schemaName ∧ m.name = Naming.moduleName r.target))

/-- Do the modules hold every class of the run that one of them refers to? -/
def ImportsClosed (s : Scope) (modules : List Module) : Prop :=
  ∀ m ∈ modules, ∀ u ∈ m.body.uses, u.reference.isGenerated = true → s.Provides modules u.reference

instance (s : Scope) (modules : List Module) : Decidable (s.ImportsClosed modules) :=
  inferInstanceAs (Decidable (∀ m ∈ modules, ∀ u ∈ m.body.uses,
    u.reference.isGenerated = true → s.Provides modules u.reference))

/-- Is there a class with the name of an operation root in the package of operations? It comes from an object type
whose operations are asked for, or from a model where both packages agree. -/
def HasRootClass (s : Scope) (documents : List Document) (root : String) : Prop :=
  (s.targets.generatesApis = true ∧ ∃ type, .object type ∈ documents.flatten ∧ type.name = root) ∨
    (s.targets.modelPackage = s.targets.apiPackage ∧
      ∃ d ∈ documents.flatten, ∃ n, d.modelName? = some n ∧ s.className n = root)

end Scope

/-! ### Classes of a run -/

theorem mem_roots_of_isRoot {n : String} (h : Naming.isRoot n = true) : n ∈ ["Query", "Mutation", "Subscription"] :=
  List.contains_iff_mem.1 h

/-- No root has a name that ends in the name of another. -/
theorem root_eq_of_suffix {before root n : String} (hroot : Naming.isRoot root = true) (hn : Naming.isRoot n = true)
    (h : n = before ++ root) : n = root := by
  have hsuffix : root.toList <:+ n.toList := ⟨before.toList, by rw [h, String.toList_append]⟩
  have hall : ∀ a ∈ ["Query", "Mutation", "Subscription"], ∀ b ∈ ["Query", "Mutation", "Subscription"],
      a.toList <:+ b.toList → b = a := by decide +kernel
  exact hall root (mem_roots_of_isRoot hroot) n (mem_roots_of_isRoot hn) hsuffix

theorem Schema.Definition.mem_operationClasses_of_isRoot {d : Definition} {n : String} (hn : Naming.isRoot n = true) :
    n ∈ d.operationClasses ↔ ∃ type, d = .object type ∧ type.name = n := by
  constructor
  · intro h
    obtain ⟨type, rfl, hroot, ⟨f, -, he⟩ | he⟩ := exists_root_of_mem_operationClasses h
    · exact ⟨type, rfl, (root_eq_of_suffix hroot hn he).symm⟩
    · exact ⟨type, rfl, he.symm⟩
  · rintro ⟨type, rfl, rfl⟩
    simp [operationClasses, hn]

namespace Scope

variable {s : Scope} {documents : List Document}

theorem mem_flatMap_documentPlaces {p : ClassPlace} (hp : p.className ≠ resolversClass) :
    p ∈ documents.flatMap s.documentPlaces ↔ ∃ d ∈ documents.flatten, p ∈ s.definitionPlaces d := by
  have hlast : p ≠ ⟨s.targets.apiPackage, resolversClass⟩ := fun e => hp (e ▸ rfl)
  simp only [documentPlaces, List.mem_flatMap, List.mem_append, List.mem_singleton, hlast, or_false, List.mem_flatten]
  constructor
  · rintro ⟨document, hdocument, d, hd, h⟩
    exact ⟨d, ⟨document, hdocument, hd⟩, h⟩
  · rintro ⟨d, ⟨document, hdocument, hd⟩, h⟩
    exact ⟨document, hdocument, d, hd, h⟩

theorem mem_definitionPlaces {d : Definition} {p : ClassPlace} :
    p ∈ s.definitionPlaces d ↔
      (∃ n, d.modelName? = some n ∧ p = ⟨s.targets.modelPackage, s.className n⟩) ∨
        (s.targets.generatesApis = true ∧ ∃ c ∈ d.operationClasses, p = ⟨s.targets.apiPackage, c⟩) := by
  rw [definitionPlaces, List.mem_append]
  refine or_congr ?_ ?_
  · simp [List.mem_map, eq_comm]
  · split
    · next h => simp [h, List.mem_map, eq_comm]
    · next h => simp [h]

/-- The classes of a run are found by their package and name. -/
theorem provides_iff (h : s.MapsAll documents) {r : Reference} :
    s.Provides (s.modules documents) r ↔
      ⟨s.packageOf r.schemaName, r.target⟩ ∈ documents.flatMap s.documentPlaces := by
  rw [← map_place_modules h, List.mem_map]
  constructor
  · rintro ⟨m, hm, hclass, hpackage, -⟩
    exact ⟨m, hm, by rw [Module.place, hclass, hpackage]⟩
  · rintro ⟨m, hm, he⟩
    have hclass : m.className = r.target := congrArg ClassPlace.className he
    exact ⟨m, hm, hclass, congrArg ClassPlace.package he, congrArg Naming.moduleName hclass⟩

/-! ### Which references find their class -/

/-- A class of the run that is no root comes from a definition that yields a model. -/
theorem exists_modelName_of_generates {o : Options} {n : String} (hn : (ofRun o documents).Generates n)
    (hroot : Naming.isRoot n = false) : ∃ d ∈ documents.flatten, d.modelName? = some n := by
  obtain ⟨-, -, hscalar, hknown⟩ := generates_ofRun.1 hn
  obtain ⟨d, hd, hname⟩ := List.mem_filterMap.1 hknown
  refine ⟨d, hd, Definition.modelName?_eq_some_iff.2 ⟨hname, ?_, ?_⟩⟩
  · rintro rfl
    exact hscalar (mem_scalarNames.2 hd)
  · rintro type rfl
    rw [← hroot, ← Option.some.inj hname]

theorem className_of_isRoot {n : String} (h : Naming.isRoot n = true) : s.className n = n := by simp [className, h]

theorem resolversClass_ne_root {n : String} (h : Naming.isRoot n = true) : n ≠ resolversClass := by
  have hall : ∀ a ∈ ["Query", "Mutation", "Subscription"], a ≠ resolversClass := by decide
  exact hall n (mem_roots_of_isRoot h)

theorem provides_iff_hasRootClass (h : s.MapsAll documents) {r : Reference} (hroot : Naming.isRoot r.schemaName = true)
    (htarget : r.target = r.schemaName) :
    s.Provides (s.modules documents) r ↔ s.HasRootClass documents r.schemaName := by
  have hpackage : s.packageOf r.schemaName = s.targets.apiPackage := by simp [packageOf, hroot]
  rw [provides_iff h, htarget, hpackage, mem_flatMap_documentPlaces (resolversClass_ne_root hroot), HasRootClass]
  constructor
  · rintro ⟨d, hd, hp⟩
    rcases mem_definitionPlaces.1 hp with ⟨n, hn, he⟩ | ⟨hapis, c, hc, he⟩
    · rw [ClassPlace.mk.injEq] at he
      exact .inr ⟨he.1.symm, d, hd, n, hn, he.2.symm⟩
    · rw [ClassPlace.mk.injEq] at he
      obtain ⟨type, rfl, hname⟩ := (Definition.mem_operationClasses_of_isRoot hroot).1 (he.2 ▸ hc)
      exact .inl ⟨hapis, type, hd, hname⟩
  · rintro (⟨hapis, type, hd, hname⟩ | ⟨hpackages, d, hd, n, hn, hclass⟩)
    · refine ⟨_, hd, mem_definitionPlaces.2 (.inr ⟨hapis, r.schemaName, ?_, rfl⟩)⟩
      exact (Definition.mem_operationClasses_of_isRoot hroot).2 ⟨type, rfl, hname⟩
    · exact ⟨d, hd, mem_definitionPlaces.2 (.inl ⟨n, hn, by rw [hpackages, hclass]⟩)⟩

/-- The class of a model is always found. -/
theorem provides_model {o : Options} (h : (ofRun o documents).MapsAll documents) {r : Reference}
    (hr : (ofRun o documents).Generates r.schemaName) (hroot : Naming.isRoot r.schemaName = false)
    (htarget : r.target = (ofRun o documents).className r.schemaName) :
    (ofRun o documents).Provides ((ofRun o documents).modules documents) r := by
  obtain ⟨d, hd, hname⟩ := exists_modelName_of_generates hr hroot
  obtain ⟨document, hdocument, hd⟩ := List.mem_flatten.1 hd
  have hpackage : (ofRun o documents).packageOf r.schemaName = (ofRun o documents).targets.modelPackage := by
    simp [packageOf, hroot]
  rw [provides_iff h, hpackage, htarget]
  refine List.mem_flatMap.2 ⟨document, hdocument, List.mem_append_left _ (List.mem_flatMap.2 ⟨d, hd, ?_⟩)⟩
  exact mem_definitionPlaces.2 (.inl ⟨_, hname, rfl⟩)

/-- A run is closed exactly if each operation root that its modules refer to has a class in the package of
operations. -/
theorem importsClosed_iff (o : Options) (documents : List Document) (h : (ofRun o documents).MapsAll documents) :
    (ofRun o documents).ImportsClosed ((ofRun o documents).modules documents) ↔
      ∀ m ∈ (ofRun o documents).modules documents, ∀ u ∈ m.body.uses, u.reference.isGenerated = true →
        Naming.isRoot u.reference.schemaName = true →
          (ofRun o documents).HasRootClass documents u.reference.schemaName := by
  constructor
  · intro hclosed m hm u hu hgenerated hroot
    have htarget := (resolves_of_mem_modules hm hu).target_eq hgenerated
    rw [className_of_isRoot hroot] at htarget
    exact (provides_iff_hasRootClass h hroot htarget).1 (hclosed m hm u hu hgenerated)
  · intro hroots m hm u hu hgenerated
    have hresolves := resolves_of_mem_modules hm hu
    have htarget := hresolves.target_eq hgenerated
    cases hroot : Naming.isRoot u.reference.schemaName with
    | true =>
      rw [className_of_isRoot hroot] at htarget
      exact (provides_iff_hasRootClass h hroot htarget).2 (hroots m hm u hu hgenerated hroot)
    | false => exact provides_model h (hresolves.generates hgenerated) hroot htarget

/-- With operations, a root that refers to itself is closed. -/
theorem importsClosed_with_operations :
    let documents := [[.object ⟨"Query", none, [], [⟨"again", none, [], .named "Query" false⟩]⟩]]
    (ofRun .unset documents).MapsAll documents ∧
      (ofRun .unset documents).ImportsClosed ((ofRun .unset documents).modules documents) := by
  intro documents
  have h : (ofRun .unset documents).MapsAll documents := by decide +kernel
  refine ⟨h, (importsClosed_iff .unset documents h).2 fun m hm u hu hgenerated _ => ?_⟩
  have hknown := (generates_ofRun.1 ((resolves_of_mem_modules hm hu).generates hgenerated)).2.2.2
  have hname : "Query" = u.reference.schemaName := (List.mem_singleton.1 hknown).symm
  exact .inl ⟨rfl, _, List.mem_cons_self, hname⟩

/-- Not every run is closed: without operations, no module holds the query type that a field has; and an interface
with the name of a root is generated in the package of models, but looked for in that of operations. -/
theorem importsOpen_without_operations :
    (let documents := [[.object ⟨"Payload", none, [], [⟨"query", none, [], .named "Query" false⟩]⟩,
        .object ⟨"Query", none, [], [⟨"payload", none, [], .named "Payload" false⟩]⟩]]
      let s := ofRun { Options.unset with apis := some false } documents
      s.MapsAll documents ∧ ¬ s.ImportsClosed (s.modules documents)) ∧
    (let documents := [[.interface ⟨"Query", none, [], [⟨"name", none, [], .named "ID" false⟩]⟩,
        .object ⟨"Payload", none, [], [⟨"query", none, [], .named "Query" false⟩]⟩]]
      let s := ofRun { Options.unset with modelPackage := some "models", apiPackage := some "operations" } documents
      s.MapsAll documents ∧ ¬ s.ImportsClosed (s.modules documents)) := by
  decide +kernel

end Scope

end SchemaBindings
