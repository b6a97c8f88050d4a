import SchemaBindings.Proofs.Uses

/-!
# The modules of a document

A document that is mapped without failure yields its modules in the order of its definitions, and the packages and
classes of these modules can be read off the definitions and the options alone (`map_place_mapDocument`).
-/

namespace SchemaBindings

open Schema

/-! ### Steps of mapping -/

/-- The modules of one step. -/
def stepModules : Option (Except UnknownType (List Module)) → List Module
  | some (.ok modules) => modules
  | _ => []

theorem mem_stepModules_iff {step : Option (Except UnknownType (List Module))} {m : Module} :
    m ∈ stepModules step ↔ ∃ modules, step = some (.ok modules) ∧ m ∈ modules := by
  unfold stepModules
  split
  · next modules => simp
  · next h => simpa using fun modules he => absurd he (h modules)

namespace Mapped

/-- Steps that end without failure have all succeeded. -/
theorem exists_ok_of_failure_eq_none {steps : List (Option (Except UnknownType (List Module)))}
    (h : (ofSteps steps).failure = none) {step : Except UnknownType (List Module)} (hstep : some step ∈ steps) :
    ∃ modules, step = .ok modules := by
  induction steps with
  | nil => cases hstep
  | cons first steps ih =>
    match first, h with
    | none, h =>
      rcases List.mem_cons.1 hstep with he | hstep
      · cases he
      · exact ih h hstep
    | some (.ok modules), h =>
      rcases List.mem_cons.1 hstep with he | hstep
      · exact ⟨modules, Option.some.inj he⟩
      · exact ih h hstep
    | some (.error e), h => cases h

theorem modules_ofSteps {steps : List (Option (Except UnknownType (List Module)))}
    (h : (ofSteps steps).failure = none) : (ofSteps steps).modules = steps.flatMap stepModules := by
  induction steps with
  | nil => rfl
  | cons first steps ih =>
    match first, h with
    | none, h => exact ih h
    | some (.ok modules), h =>
      show modules ++ (ofSteps steps).modules = modules ++ steps.flatMap stepModules
      rw [ih h]
    | some (.error e), h => cases h

/-- Also after a failure, each module comes from a step that succeeded. -/
theorem exists_step_of_mem {steps : List (Option (Except UnknownType (List Module)))} {m : Module}
    (hm : m ∈ (ofSteps steps).modules) : ∃ modules, some (.ok modules) ∈ steps ∧ m ∈ modules := by
  induction steps with
  | nil => cases hm
  | cons first steps ih =>
    match first, hm with
    | none, hm =>
      obtain ⟨modules, hstep, hm⟩ := ih hm
      exact ⟨modules, List.mem_cons_of_mem _ hstep, hm⟩
    | some (.ok modules), hm =>
      rcases List.mem_append.1 hm with hm | hm
      · exact ⟨modules, List.mem_cons_self, hm⟩
      · obtain ⟨modules, hstep, hm⟩ := ih hm
        exact ⟨modules, List.mem_cons_of_mem _ hstep, hm⟩
    | some (.error e), hm => cases hm

end Mapped

/-- A module of a document comes from one of its definitions, or holds its resolvers. -/
theorem Scope.origin_of_mem_mapDocument {s : Scope} {document : Document} {m : Module}
    (hm : m ∈ (s.mapDocument document).modules) :
    (∃ d ∈ document, ∃ modules, s.definitionModules? document d = some (.ok modules) ∧ m ∈ modules) ∨
      s.resolverModule document = .ok m := by
  obtain ⟨modules, hstep, hm⟩ := Mapped.exists_step_of_mem hm
  rcases List.mem_append.1 hstep with hstep | hstep
  · obtain ⟨d, hd, he⟩ := List.mem_map.1 hstep
    exact .inl ⟨d, hd, modules, he, hm⟩
  · obtain ⟨resolvers, hresolvers, he⟩ := bind_eq_ok_iff.1 (Option.some.inj (List.mem_singleton.1 hstep)).symm
    cases he
    rw [List.mem_singleton] at hm
    exact .inr (hm ▸ hresolvers)

/-- What a definition that does not fail yields: the operations of a root where they are asked for, and else one
module for each type other than a scalar. -/
inductive Scope.Yields (s : Scope) (document : Document) : Definition → List Module → Prop
  | operations {type : FieldedDefinition} {single : List Module} {whole : Module}
      (hroot : Naming.isRoot type.name = true) (hapis : s.targets.generatesApis = true)
      (hsingle : type.fields.mapM (s.operationModule type.name) = .ok single) (hwhole : s.rootModule type = .ok whole) :
      Yields s document (.object type) (single ++ [whole])
  | withoutApis {type : FieldedDefinition} (hroot : Naming.isRoot type.name = true)
      (hapis : s.targets.generatesApis = false) : Yields s document (.object type) []
  | object {type : FieldedDefinition} {m : Module} (hroot : Naming.isRoot type.name = false)
      (h : s.objectModule document type = .ok m) : Yields s document (.object type) [m]
  | interface {type : FieldedDefinition} {m : Module} (h : s.interfaceModule type = .ok m) :
      Yields s document (.interface type) [m]
  | enumeration {name : String} {description : Option String} {values : List String} :
      Yields s document (.enumeration name description values) [s.enumerationModule name description values]
  | input {name : String} {description : Option String} {fields : List InputValue} {m : Module}
      (h : s.inputModule name description fields = .ok m) : Yields s document (.input name description fields) [m]
  | union {name : String} {description : Option String} {members : List String} {m : Module}
      (h : s.unionModule name description members = .ok m) : Yields s document (.union name description members) [m]

private theorem eq_singleton_of_bind {x : Except UnknownType Module} {modules : List Module}
    (h : (do return [← x] : Except UnknownType (List Module)) = .ok modules) : ∃ m, x = .ok m ∧ modules = [m] := by
  obtain ⟨m, hm, rfl⟩ := bind_pure_eq_ok_iff.1 h
  exact ⟨m, hm, rfl⟩

theorem Scope.yields_of_definitionModules {s : Scope} {document : Document} {d : Definition} {modules : List Module}
    (h : s.definitionModules? document d = some (.ok modules)) : s.Yields document d modules := by
  match d with
  | .object type =>
    have h := Option.some.inj h
    split at h
    · next hroot =>
      split at h
      · next hapis =>
        obtain ⟨single, hsingle, h⟩ := bind_eq_ok_iff.1 h
        obtain ⟨whole, hwhole, h⟩ := bind_eq_ok_iff.1 h
        cases h
        exact .operations hroot hapis hsingle hwhole
      · next hapis =>
        cases h
        exact .withoutApis hroot (by simpa using hapis)
    · next hroot =>
      obtain ⟨m, hm, rfl⟩ := eq_singleton_of_bind h
      exact .object (by simpa using hroot) hm
  | .interface type =>
    obtain ⟨m, hm, rfl⟩ := eq_singleton_of_bind (Option.some.inj h)
    exact .interface hm
  | .enumeration name description values =>
    cases h
    exact .enumeration
  | .input name description fields =>
    obtain ⟨m, hm, rfl⟩ := eq_singleton_of_bind (Option.some.inj h)
    exact .input hm
  | .union name description members =>
    obtain ⟨m, hm, rfl⟩ := eq_singleton_of_bind (Option.some.inj h)
    exact .union hm
  | .scalar _ | .schema | .directive _ | .extension _ _ | .operation _ | .fragment _ => cases h

theorem Scope.Yields.resolvesAll {s : Scope} {document : Document} {d : Definition} {modules : List Module}
    (h : s.Yields document d modules) : ∀ m ∈ modules, s.ResolvesAll m := by
  intro m hm
  cases h with
  | operations hroot hapis hsingle hwhole =>
    rcases List.mem_append.1 hm with hm | hm
    · obtain ⟨field, -, hfield⟩ := exists_of_mem_mapM hsingle hm
      exact resolvesAll_operationModule hfield
    · exact List.mem_singleton.1 hm ▸ resolvesAll_rootModule hwhole
  | withoutApis => cases hm
  | object hroot h => exact List.mem_singleton.1 hm ▸ resolvesAll_objectModule h
  | interface h => exact List.mem_singleton.1 hm ▸ resolvesAll_interfaceModule h
  | enumeration =>
    rw [List.mem_singleton.1 hm]
    intro u hu
    cases hu
  | input h => exact List.mem_singleton.1 hm ▸ resolvesAll_inputModule h
  | union h => exact List.mem_singleton.1 hm ▸ resolvesAll_unionModule h

/-- Every reference in the modules of a document is one that the scope gives. -/
theorem Scope.resolves_of_mem_uses {s : Scope} {document : Document} {m : Module}
    (hm : m ∈ (s.mapDocument document).modules) {u : Use} (hu : u ∈ m.body.uses) : s.Resolves u.reference := by
  rcases origin_of_mem_mapDocument hm with ⟨d, -, modules, h, hm⟩ | h
  · exact (yields_of_definitionModules h).resolvesAll m hm u hu
  · exact resolvesAll_resolverModule h u hu

/-! ### Packages and classes -/

/-- Where a generated class is to be found. -/
structure ClassPlace where
  package : String
  className : String
  deriving DecidableEq, Repr

/-- Where the class of a module is to be found. -/
def Module.place (m : Module) : ClassPlace := ⟨m.package, m.className⟩

namespace Schema.Definition

/-- The name of the type for which the definition yields a model. -/
def modelName? : Definition → Option String
  | object type => if Naming.isRoot type.name then none else some type.name
  | interface type => some type.name
  | enumeration name .. => some name
  | input name .. => some name
  | union name .. => some name
  | _ => none

/-- The classes for the operations of a root, or none for another definition. -/
def operationClasses : Definition → List String
  | object type =>
    if Naming.isRoot type.name then type.fields.map (fun f => Naming.capitalize f.name ++ type.name) ++ [type.name]
    else []
  | _ => []

/-- A definition of a type yields a model, unless it defines a scalar or is an object type with the name of a root. -/
theorem modelName?_eq_some_iff {d : Definition} {n : String} :
    d.modelName? = some n ↔ d.typeName? = some n ∧ d ≠ .scalar n ∧
      ∀ type, d = .object type → Naming.isRoot type.name = false := by
  cases d <;> simp [modelName?, typeName?]
  tauto

/-- Only an operation root has such classes: one for each field and one for itself. -/
theorem exists_root_of_mem_operationClasses {d : Definition} {c : String} (hc : c ∈ d.operationClasses) :
    ∃ type, d = object type ∧ Naming.isRoot type.name = true ∧
      ((∃ f ∈ type.fields, c = Naming.capitalize f.name ++ type.name) ∨ c = type.name) := by
  match d, hc with
  | object type, hc =>
    rw [operationClasses] at hc
    split at hc
    · next hroot =>
      refine ⟨type, rfl, hroot, ?_⟩
      rcases List.mem_append.1 hc with hc | hc
      · obtain ⟨f, hf, rfl⟩ := List.mem_map.1 hc
        exact .inl ⟨f, hf, rfl⟩
      · exact .inr (List.mem_singleton.1 hc)
    · cases hc

theorem typeName?_of_modelName? {d : Definition} {n : String} (h : d.modelName? = some n) : d.typeName? = some n :=
  (modelName?_eq_some_iff.1 h).1

end Schema.Definition

/-- The types that definitions yield models for. -/
def modelNames (definitions : List Definition) : List String := definitions.filterMap Definition.modelName?

namespace Scope

variable (s : Scope)

/-- Where the classes of a definition are to be found. -/
def definitionPlaces (d : Definition) : List ClassPlace :=
  (d.modelName?.toList.map fun n => ⟨s.targets.modelPackage, s.className n⟩) ++
    if s.targets.generatesApis then d.operationClasses.map fun c => ⟨s.targets.apiPackage, c⟩ else []

/-- Where the classes of a document are to be found. -/
def documentPlaces (document : Document) : List ClassPlace :=
  document.flatMap s.definitionPlaces ++ [⟨s.targets.apiPackage, resolversClass⟩]

variable {s} {document : Document}

private theorem place_operationModule {root : String} {field : FieldDefinition} {m : Module}
    (h : s.operationModule root field = .ok m) :
    m.place = ⟨s.targets.apiPackage, Naming.capitalize field.name ++ root⟩ := by
  obtain ⟨operation, -, rfl⟩ := operationModule_eq_ok_iff.1 h
  rfl

private theorem place_rootModule {root : FieldedDefinition} {m : Module} (h : s.rootModule root = .ok m) :
    m.place = ⟨s.targets.apiPackage, root.name⟩ := by
  obtain ⟨operations, -, rfl⟩ := rootModule_eq_ok_iff.1 h
  rfl

private theorem place_resolverModule {m : Module} (h : s.resolverModule document = .ok m) :
    m.place = ⟨s.targets.apiPackage, resolversClass⟩ := by
  obtain ⟨entries, -, rfl⟩ := resolverModule_eq_ok_iff.1 h
  rfl

private theorem place_objectModule {type : FieldedDefinition} {m : Module}
    (h : s.objectModule document type = .ok m) : m.place = ⟨s.targets.modelPackage, s.className type.name⟩ := by
  obtain ⟨fields, -, bases, -, rfl⟩ := objectModule_eq_ok_iff.1 h
  rfl

private theorem place_interfaceModule {type : FieldedDefinition} {m : Module} (h : s.interfaceModule type = .ok m) :
    m.place = ⟨s.targets.modelPackage, s.className type.name⟩ := by
  obtain ⟨fields, -, bases, -, rfl⟩ := interfaceModule_eq_ok_iff.1 h
  rfl

private theorem place_inputModule {name : String} {description : Option String} {inputs : List InputValue}
    {m : Module} (h : s.inputModule name description inputs = .ok m) :
    m.place = ⟨s.targets.modelPackage, s.className name⟩ := by
  obtain ⟨fields, -, rfl⟩ := inputModule_eq_ok_iff.1 h
  rfl

private theorem place_unionModule {name : String} {description : Option String} {members : List String}
    {m : Module} (h : s.unionModule name description members = .ok m) :
    m.place = ⟨s.targets.modelPackage, s.className name⟩ := by
  obtain ⟨targets, -, rfl⟩ := unionModule_eq_ok_iff.1 h
  rfl

theorem Yields.map_place {d : Definition} {modules : List Module} (h : s.Yields document d modules) :
    modules.map Module.place = s.definitionPlaces d := by
  cases h with
  | @operations type single whole hroot hapis hsingle hwhole =>
    have hfields := map_eq_of_mapM hsingle fun _ _ h => place_operationModule h
    simp [definitionPlaces, Definition.modelName?, Definition.operationClasses, hroot, hapis, hfields,
      place_rootModule hwhole]
  | withoutApis hroot hapis => simp [definitionPlaces, Definition.modelName?, hroot, hapis]
  | object hroot h =>
    simp [definitionPlaces, Definition.modelName?, Definition.operationClasses, hroot, place_objectModule h]
  | interface h => simp [definitionPlaces, Definition.modelName?, Definition.operationClasses, place_interfaceModule h]
  | enumeration => simp [definitionPlaces, Definition.modelName?, Definition.operationClasses]; rfl
  | input h => simp [definitionPlaces, Definition.modelName?, Definition.operationClasses, place_inputModule h]
  | union h => simp [definitionPlaces, Definition.modelName?, Definition.operationClasses, place_unionModule h]

/-- A definition that is skipped has no classes. -/
theorem definitionPlaces_of_skipped {d : Definition} (h : s.definitionModules? document d = none) :
    s.definitionPlaces d = [] := by
  match d with
  | .object _ | .interface _ | .enumeration .. | .input .. | .union .. => cases h
  | .scalar _ | .schema | .directive _ | .extension .. | .operation _ | .fragment _ =>
    simp [definitionPlaces, Definition.modelName?, Definition.operationClasses]

section

variable (h : (s.mapDocument document).failure = none)

include h

/-- Without failure, the modules of the definitions come first, and the resolvers last. -/
theorem exists_resolvers_mapDocument : ∃ resolvers, s.resolverModule document = .ok resolvers ∧
    (s.mapDocument document).modules =
      document.flatMap (fun d => stepModules (s.definitionModules? document d)) ++ [resolvers] := by
  have hmem : some (do return [← s.resolverModule document]) ∈ s.steps document :=
    List.mem_append_right _ List.mem_cons_self
  obtain ⟨last, hlast⟩ := Mapped.exists_ok_of_failure_eq_none h hmem
  obtain ⟨resolvers, hresolvers, rfl⟩ := eq_singleton_of_bind hlast
  refine ⟨resolvers, hresolvers, ?_⟩
  rw [mapDocument, Mapped.modules_ofSteps h, steps, hlast, List.flatMap_append, List.flatMap_map]
  rfl

theorem exists_ok_of_definitionModules? {d : Definition} (hd : d ∈ document) {step : Except UnknownType (List Module)}
    (hstep : s.definitionModules? document d = some step) : ∃ modules, step = .ok modules :=
  Mapped.exists_ok_of_failure_eq_none h (List.mem_append_left _ (List.mem_map.2 ⟨d, hd, hstep⟩))

/-- Without failure, what each definition yields can be told from the definition, if this can be done for those that
are skipped. -/
theorem map_stepModules {β : Type} {f : Module → β} {g : Definition → List β}
    (hskipped : ∀ d, s.definitionModules? document d = none → g d = [])
    (hyields : ∀ d modules, s.Yields document d modules → modules.map f = g d) :
    (document.flatMap fun d => stepModules (s.definitionModules? document d)).map f = document.flatMap g := by
  rw [List.map_flatMap]
  refine List.flatMap_congr fun d hd => ?_
  match hstep : s.definitionModules? document d with
  | none => exact (hskipped d hstep).symm
  | some step =>
    obtain ⟨modules, rfl⟩ := exists_ok_of_definitionModules? h hd hstep
    exact hyields d modules (yields_of_definitionModules hstep)

/-- The modules of a document that is mapped without failure are found where its definitions say. -/
theorem map_place_mapDocument : (s.mapDocument document).modules.map Module.place = s.documentPlaces document := by
  obtain ⟨resolvers, hresolvers, hmodules⟩ := exists_resolvers_mapDocument h
  have hdefinitions := map_stepModules h (fun d => definitionPlaces_of_skipped) fun d modules => Yields.map_place
  rw [hmodules, List.map_append, hdefinitions, List.map_singleton, place_resolverModule hresolvers, documentPlaces]

end

/-! ### Runs -/

/-- The modules of all documents. -/
def modules (s : Scope) (documents : List Document) : List Module :=
  documents.flatMap fun document => (s.mapDocument document).modules

/-- Are all documents mapped without failure? -/
def MapsAll (s : Scope) (documents : List Document) : Prop :=
  ∀ document ∈ documents, (s.mapDocument document).failure = none

instance (s : Scope) (documents : List Document) : Decidable (s.MapsAll documents) :=
  inferInstanceAs (Decidable (∀ document ∈ documents, (s.mapDocument document).failure = none))

variable {documents : List Document}

theorem map_place_modules (h : s.MapsAll documents) :
    (s.modules documents).map Module.place = documents.flatMap s.documentPlaces := by
  rw [modules, List.map_flatMap]
  exact List.flatMap_congr fun document hd => map_place_mapDocument (h document hd)

theorem resolves_of_mem_modules {m : Module} (hm : m ∈ s.modules documents) {u : Use} (hu : u ∈ m.body.uses) :
    s.Resolves u.reference := by
  obtain ⟨document, -, hm⟩ := List.mem_flatMap.1 hm
  exact resolves_of_mem_uses hm hu

end Scope

end SchemaBindings
