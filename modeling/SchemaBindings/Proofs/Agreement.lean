import SchemaBindings.Proofs.Bases

/-!
# Scopes that agree

Mapping a document asks its scope for what names mean and what interfaces inherit (`Scope.SameNames`), and whether
operations are wanted; it asks for nothing else. Scopes that agree on this map every document alike
(`Agrees.mapDocument_eq`).
-/

namespace SchemaBindings

open Schema

namespace Scope

/-! ### Names -/

/-- Each name means the same in both scopes: same packages, same classes, same targets, same types, same interfaces.
The order of their tables may differ. -/
structure SameNames (s s' : Scope) : Prop where
  modelPackage_eq : s.targets.modelPackage = s'.targets.modelPackage
  apiPackage_eq : s.targets.apiPackage = s'.targets.apiPackage
  className_eq : ∀ n, s.className n = s'.className n
  find?_eq : ∀ n, s.targets.find? n = s'.targets.find? n
  mem_known_iff : ∀ n, n ∈ s.known ↔ n ∈ s'.known
  interfaces_eq : ∀ n, s.interfaces.find? n = s'.interfaces.find? n

namespace SameNames

variable {s s' : Scope} (h : s.SameNames s')

include h

theorem packageOf_eq (n : String) : s.packageOf n = s'.packageOf n := by
  unfold packageOf
  rw [h.modelPackage_eq, h.apiPackage_eq]

theorem resolveName_eq (n : String) (context : Option String) : s.resolveName n context = s'.resolveName n context := by
  have hknown : s.known.contains n = s'.known.contains n := by
    rw [Bool.eq_iff_iff, List.contains_iff_mem, List.contains_iff_mem]
    exact h.mem_known_iff n
  unfold resolveName
  rw [h.find?_eq, h.className_eq, hknown]

theorem resolve_eq (type : TypeExpr) (context : Option String) : s.resolve type context = s'.resolve type context := by
  unfold resolve
  rw [h.resolveName_eq]

theorem importFor?_eq (r : Reference) (package : String) : s.importFor? r package = s'.importFor? r package := by
  unfold importFor?
  rw [h.packageOf_eq]

/-! ### Parts of classes -/

theorem mapArguments_eq (owner : String) (used : List String) (values : List InputValue) :
    s.mapArguments owner used values = s'.mapArguments owner used values := by
  induction values generalizing used with
  | nil => rfl
  | cons value values ih =>
    unfold mapArguments
    simp only [h.resolve_eq, ih]

theorem mapFields_eq (owner : String) (used : List String) (fields : List FieldDefinition) :
    s.mapFields owner used fields = s'.mapFields owner used fields := by
  unfold mapFields
  simp only [h.resolve_eq, h.mapArguments_eq]

theorem mem_ancestors_iff {a b : String} : b ∈ s.ancestors a ↔ b ∈ s'.ancestors a := by
  have hedge : s.interfaces.Edge = s'.interfaces.Edge := by
    funext a b
    unfold Table.Edge
    rw [h.interfaces_eq]
  rw [Scope.mem_ancestors_iff, Scope.mem_ancestors_iff, hedge]

/-- The ancestors of an interface may be listed in another order, but only the question which names they are
matters. -/
theorem minimalNames_eq (names : List String) : s.minimalNames names = s'.minimalNames names := by
  unfold minimalNames
  refine List.filter_congr fun n _ => ?_
  have hinherited : n ∈ names.eraseDups.flatMap s.ancestors ↔ n ∈ names.eraseDups.flatMap s'.ancestors := by
    simp only [List.mem_flatMap, h.mem_ancestors_iff]
  rw [← List.contains_iff_mem, ← List.contains_iff_mem] at hinherited
  rw [Bool.eq_iff_iff.2 hinherited]

theorem mapBases_eq (owner : String) (names : List String) : s.mapBases owner names = s'.mapBases owner names := by
  unfold mapBases
  simp only [h.minimalNames_eq, h.resolveName_eq]

theorem mapOperation_eq (root : String) (field : FieldDefinition) :
    s.mapOperation root field = s'.mapOperation root field := by
  unfold mapOperation
  simp only [h.resolve_eq, h.mapArguments_eq]

theorem resolverEntry_eq (type : FieldedDefinition) (isInterface : Bool) :
    s.resolverEntry type isInterface = s'.resolverEntry type isInterface := by
  unfold resolverEntry
  simp only [h.resolveName_eq, h.mapFields_eq, h.className_eq]

/-! ### Modules -/

theorem assemble_eq (package className : String) (description : Option String) (body : Body) :
    Module.assemble s package className description body = Module.assemble s' package className description body := by
  have himport (u : Use) : u.import? s package className = u.import? s' package className := by
    unfold Use.import?
    rw [h.importFor?_eq]
  unfold Module.assemble annotationImports runtimeImports
  simp only [himport]

theorem modelModule_eq (name : String) (description : Option String) (body : Body) :
    s.modelModule name description body = s'.modelModule name description body := by
  unfold modelModule
  rw [h.assemble_eq, h.modelPackage_eq, h.className_eq]

theorem apiModule_eq (className : String) (description : Option String) (body : Body) :
    s.apiModule className description body = s'.apiModule className description body := by
  unfold apiModule
  rw [h.assemble_eq, h.apiPackage_eq]

theorem operationModules_eq (root : FieldedDefinition) : s.operationModules root = s'.operationModules root := by
  have hsingle : s.operationModule root.name = s'.operationModule root.name := by
    funext field
    unfold operationModule
    simp only [h.mapOperation_eq, h.apiModule_eq]
  have hwhole : s.rootModule root = s'.rootModule root := by
    have hoperation : s.mapOperation root.name = s'.mapOperation root.name := funext (h.mapOperation_eq root.name)
    unfold rootModule
    simp only [hoperation, h.apiModule_eq]
  unfold operationModules
  rw [hsingle, hwhole]

theorem objectModule_eq (document : Document) (type : FieldedDefinition) :
    s.objectModule document type = s'.objectModule document type := by
  unfold objectModule
  simp only [h.mapFields_eq, h.mapBases_eq, h.modelModule_eq]

theorem interfaceModule_eq (type : FieldedDefinition) : s.interfaceModule type = s'.interfaceModule type := by
  unfold interfaceModule
  simp only [h.mapFields_eq, h.mapBases_eq, h.modelModule_eq]

theorem enumerationModule_eq (name : String) (description : Option String) (values : List String) :
    s.enumerationModule name description values = s'.enumerationModule name description values :=
  h.modelModule_eq ..

theorem inputModule_eq (name : String) (description : Option String) (fields : List InputValue) :
    s.inputModule name description fields = s'.inputModule name description fields := by
  unfold inputModule mapInputFields
  simp only [h.mapFields_eq, h.modelModule_eq]

theorem unionModule_eq (name : String) (description : Option String) (members : List String) :
    s.unionModule name description members = s'.unionModule name description members := by
  unfold unionModule
  simp only [h.resolveName_eq, h.modelModule_eq]

theorem resolverModule_eq (document : Document) : s.resolverModule document = s'.resolverModule document := by
  unfold resolverModule
  simp only [h.resolverEntry_eq, h.apiModule_eq]

end SameNames

/-! ### Documents -/

/-- Two scopes agree if each name means the same in both and both want operations, or neither does. -/
structure Agrees (s s' : Scope) : Prop extends s.SameNames s' where
  generatesApis_eq : s.targets.generatesApis = s'.targets.generatesApis

namespace Agrees

variable {s s' : Scope}

/-- With the same options, packages and classes are the same for all names. -/
theorem of_options_eq (hoptions : s.targets.options = s'.targets.options)
    (hfind : ∀ n, s.targets.find? n = s'.targets.find? n) (hknown : ∀ n, n ∈ s.known ↔ n ∈ s'.known)
    (hinterfaces : ∀ n, s.interfaces.find? n = s'.interfaces.find? n) : s.Agrees s' where
  modelPackage_eq := congrArg Options.effectiveModelPackage hoptions
  apiPackage_eq := congrArg Options.effectiveApiPackage hoptions
  className_eq n := by
    unfold className Targets.modelClassName
    rw [hoptions]
  find?_eq := hfind
  mem_known_iff := hknown
  interfaces_eq := hinterfaces
  generatesApis_eq := congrArg (fun o => o.apis.getD false) hoptions

variable (h : s.Agrees s')

include h

theorem definitionModules?_eq (document : Document) (d : Definition) :
    s.definitionModules? document d = s'.definitionModules? document d := by
  unfold definitionModules?
  simp only [h.generatesApis_eq, h.operationModules_eq, h.objectModule_eq, h.interfaceModule_eq,
    h.enumerationModule_eq, h.inputModule_eq, h.unionModule_eq]

/-- Scopes that agree map each document to the same modules, the same failure and the same number of skipped
definitions. -/
theorem mapDocument_eq (document : Document) : s.mapDocument document = s'.mapDocument document := by
  have hdefinitions : document.map (s.definitionModules? document) = document.map (s'.definitionModules? document) :=
    List.map_congr_left fun d _ => h.definitionModules?_eq document d
  unfold mapDocument steps
  rw [hdefinitions, h.resolverModule_eq]

end Agrees

end Scope

end SchemaBindings
