import SchemaBindings.Proofs.ModuleImports

/-!
# Modules of operations

The fields of an operation root are mapped twice, each for a module of its own and all of them for the module of the
root. Both agree: the module of the root holds the operations of the others, one after the other, and gathers their
imports, where what one of them imports at run time the others need not import for annotations. Only imports that are
named after one of the classes may differ, as each module leaves out its own (`operationModules_gathers`).
-/

namespace SchemaBindings

open Schema

/-! ### Imports of several parts -/

section

variable {s : Scope} {package className className' : String} {α : Type} {uses : List Use} {f : α → List Use}
  {l : List α} {i : Import}

theorem mem_runtimeImports_flatMap :
    i ∈ runtimeImports s package className (l.flatMap f) ↔ ∃ a ∈ l, i ∈ runtimeImports s package className (f a) := by
  simp only [mem_runtimeImports_iff, List.mem_flatMap]
  constructor
  · rintro ⟨u, ⟨a, ha, hu⟩, hi⟩
    exact ⟨a, ha, u, hu, hi⟩
  · rintro ⟨a, ha, u, hu, hi⟩
    exact ⟨u, ⟨a, ha, hu⟩, hi⟩

/-- An annotation needs no import that any part has at run time. -/
theorem mem_annotationImports_flatMap :
    i ∈ annotationImports s package className (l.flatMap f) ↔
      (∃ a ∈ l, i ∈ annotationImports s package className (f a)) ∧
        ∀ a ∈ l, i ∉ runtimeImports s package className (f a) := by
  rw [mem_annotationImports_iff, mem_runtimeImports_flatMap]
  simp only [mem_annotationImports_iff, List.mem_flatMap]
  constructor
  · rintro ⟨hruntime, u, ⟨a, ha, hu⟩, hi⟩
    have hruntime : ∀ a ∈ l, i ∉ runtimeImports s package className (f a) := fun a ha hi => hruntime ⟨a, ha, hi⟩
    exact ⟨⟨a, ha, hruntime a ha, u, hu, hi⟩, hruntime⟩
  · rintro ⟨⟨a, ha, -, u, hu, hi⟩, hruntime⟩
    exact ⟨fun ⟨a, ha, hi⟩ => hruntime a ha hi, u, ⟨a, ha, hu⟩, hi⟩

section

variable (h : i.name ≠ some className) (h' : i.name ≠ some className')

include h h'

theorem Use.import?_eq_some_congr {u : Use} :
    u.import? s package className = some i ↔ u.import? s package className' = some i := by
  simp only [Use.import?_eq_some_iff, h, h', ne_eq, not_false_eq_true]

/-- The class of a module matters only for imports that are called like it. -/
theorem mem_runtimeImports_congr :
    i ∈ runtimeImports s package className uses ↔ i ∈ runtimeImports s package className' uses := by
  simp only [mem_runtimeImports_iff, Use.import?_eq_some_congr h h']

theorem mem_annotationImports_congr :
    i ∈ annotationImports s package className uses ↔ i ∈ annotationImports s package className' uses := by
  simp only [mem_annotationImports_iff, mem_runtimeImports_congr h h', Use.import?_eq_some_congr h h']

end

end

/-! ### Gathering -/

namespace Module

/-- The operations that the class of a module holds. -/
def operations (m : Module) : List Operation :=
  match m.body with
  | .operations _ _ methods => methods
  | _ => []

/-- Does the module hold the operations of some modules, in order, and import what these import? Imports called like
one of the classes are left aside. -/
structure Gathers (whole : Module) (single : List Module) : Prop where
  operations_eq : whole.operations = single.flatMap operations
  mem_imports_iff : ∀ i : Import, i.name ≠ some whole.className → (∀ m ∈ single, i.name ≠ some m.className) →
    (i ∈ whole.imports ↔ ∃ m ∈ single, i ∈ m.imports)
  mem_typeImports_iff : ∀ i : Import, i.name ≠ some whole.className → (∀ m ∈ single, i.name ≠ some m.className) →
    (i ∈ whole.typeImports ↔ (∃ m ∈ single, i ∈ m.typeImports) ∧ ∀ m ∈ single, i ∉ m.imports)

end Module

namespace Scope

variable {s : Scope} {root : FieldedDefinition} {fields : List FieldDefinition} {modules single : List Module}
  {operations : List Operation} {whole m : Module}

/-- Is the module that of a field of a root, with the operation of this field alone? -/
def IsOperationModule (s : Scope) (root : String) (field : FieldDefinition) (m : Module) : Prop :=
  m.className = Naming.capitalize field.name ++ root ∧
    ∃ operation, s.mapOperation root field = .ok operation ∧ m.operations = [operation]

theorem isOperationModule_of_operationModule {root : String} {field : FieldDefinition}
    (h : s.operationModule root field = .ok m) : s.IsOperationModule root field m := by
  obtain ⟨operation, hoperation, rfl⟩ := operationModule_eq_ok_iff.1 h
  exact ⟨rfl, operation, hoperation, rfl⟩

/-- Mapping the fields at once gives the operations that their modules hold. -/
theorem operations_eq_of_mapM {root : String} (hsingle : fields.mapM (s.operationModule root) = .ok single)
    (hoperations : fields.mapM (s.mapOperation root) = .ok operations) :
    operations = single.flatMap Module.operations := by
  have hforall := mapM_eq_ok_iff.1 hsingle
  induction hforall generalizing operations with
  | nil =>
    cases hoperations
    rfl
  | @cons field m fields single hm hrest ih =>
    obtain ⟨operation, rest, hoperation, hrestOperations, rfl⟩ :=
      List.forall₂_cons_left_iff.1 (mapM_eq_ok_iff.1 hoperations)
    obtain ⟨-, operation', hoperation', hm⟩ := isOperationModule_of_operationModule hm
    cases hoperation.symm.trans hoperation'
    rw [List.flatMap_cons, hm, ← ih (mapM_eq_ok_iff.2 hrest) (mapM_eq_ok_iff.2 hrestOperations)]
    rfl

/-- The imports of the module of a field are those of its operations, in the place of any class that they do not
name. -/
theorem mem_imports_iff_of_operationModule {root className : String} {field : FieldDefinition}
    (h : s.operationModule root field = .ok m) {i : Import} (hi : i.name ≠ some className)
    (hm : i.name ≠ some m.className) :
    (i ∈ runtimeImports s s.targets.apiPackage className (operationUses m.operations) ↔ i ∈ m.imports) ∧
      (i ∈ annotationImports s s.targets.apiPackage className (operationUses m.operations) ↔ i ∈ m.typeImports) := by
  obtain ⟨operation, -, rfl⟩ := operationModule_eq_ok_iff.1 h
  exact ⟨mem_runtimeImports_congr hi hm, mem_annotationImports_congr hi hm⟩

theorem gathers_of_mapM (hsingle : root.fields.mapM (s.operationModule root.name) = .ok single)
    (hwhole : s.rootModule root = .ok whole) : whole.Gathers single := by
  obtain ⟨operations, hoperations, hwhole⟩ := rootModule_eq_ok_iff.1 hwhole
  obtain rfl := operations_eq_of_mapM hsingle hoperations
  have hclass : whole.className = root.name := by rw [← hwhole]; rfl
  have huses : operationUses (single.flatMap Module.operations) =
      single.flatMap fun m => operationUses m.operations := List.flatMap_assoc
  have himports : whole.imports = runtimeImports s s.targets.apiPackage root.name
      (single.flatMap fun m => operationUses m.operations) := by rw [← hwhole, ← huses]; rfl
  have htypeImports : whole.typeImports = annotationImports s s.targets.apiPackage root.name
      (single.flatMap fun m => operationUses m.operations) := by rw [← hwhole, ← huses]; rfl
  have hparts {i : Import} (hi : i.name ≠ some whole.className) (hnames : ∀ m ∈ single, i.name ≠ some m.className)
      (m : Module) (hm : m ∈ single) :
      (i ∈ runtimeImports s s.targets.apiPackage root.name (operationUses m.operations) ↔ i ∈ m.imports) ∧
        (i ∈ annotationImports s s.targets.apiPackage root.name (operationUses m.operations) ↔ i ∈ m.typeImports) := by
    obtain ⟨field, -, hfield⟩ := exists_of_mem_mapM hsingle hm
    exact mem_imports_iff_of_operationModule hfield (hclass ▸ hi) (hnames m hm)
  refine ⟨by rw [← hwhole]; rfl, fun i hi hnames => ?_, fun i hi hnames => ?_⟩
  · rw [himports, mem_runtimeImports_flatMap]
    exact exists_congr fun m => and_congr_right fun hm => (hparts hi hnames m hm).1
  · rw [htypeImports, mem_annotationImports_flatMap]
    refine and_congr (exists_congr fun m => and_congr_right fun hm => (hparts hi hnames m hm).2) ?_
    exact forall₂_congr fun m hm => not_congr (hparts hi hnames m hm).1

/-- The module of a root, which comes last, holds the operations of the modules of its fields and gathers their
imports. -/
theorem operationModules_gathers (h : s.operationModules root = .ok modules) :
    ∃ single whole, modules = single ++ [whole] ∧ whole.className = root.name ∧
      List.Forall₂ (s.IsOperationModule root.name) root.fields single ∧ whole.Gathers single := by
  obtain ⟨single, hsingle, h⟩ := bind_eq_ok_iff.1 h
  obtain ⟨whole, hwhole, rfl⟩ := bind_pure_eq_ok_iff.1 h
  have hclass : whole.className = root.name := by
    obtain ⟨operations, -, rfl⟩ := rootModule_eq_ok_iff.1 hwhole
    rfl
  exact ⟨single, whole, rfl, hclass,
    (mapM_eq_ok_iff.1 hsingle).imp fun field m => isOperationModule_of_operationModule, gathers_of_mapM hsingle hwhole⟩

/-- A class that one field mentions by a custom type and so needs at run time, and another for an annotation only. -/
theorem operationModules_gathers_user :
    let root : FieldedDefinition := ⟨"Query", none, [],
      [⟨"owner", none, [⟨"at", none, .named "Time" false, some (.string "now" false)⟩], .named "Owner" true⟩,
        ⟨"user", none, [], .named "User" false⟩]⟩
    let s := ofRun { Options.unset with
        customTypes := Table.ofList [("Owner", "models.user.User")]
        modelPackage := some "models"
        apiPackage := some "queries" }
      [[.object ⟨"User", none, [], []⟩, .enumeration "Time" none [], .object root]]
    ∃ modules, s.operationModules root = .ok modules ∧
      modules.map (fun m => (m.className, m.imports, m.typeImports)) =
        [("OwnerQuery", [⟨"models.user", some "User"⟩], [⟨"models.time", some "Time"⟩]),
          ("UserQuery", [], [⟨"models.user", some "User"⟩]),
          ("Query", [⟨"models.user", some "User"⟩], [⟨"models.time", some "Time"⟩])] ∧
      ∃ single whole, modules = single ++ [whole] ∧ whole.className = root.name ∧
        List.Forall₂ (s.IsOperationModule root.name) root.fields single ∧ whole.Gathers single := by
  intro root s
  have hlists : (s.operationModules root).toOption.map (fun modules =>
      modules.map fun m => (m.className, m.imports, m.typeImports)) =
        some [("OwnerQuery", [⟨"models.user", some "User"⟩], [⟨"models.time", some "Time"⟩]),
          ("UserQuery", [], [⟨"models.user", some "User"⟩]),
          ("Query", [⟨"models.user", some "User"⟩], [⟨"models.time", some "Time"⟩])] := by
    decide +kernel
  obtain ⟨modules, h⟩ := exists_eq_ok_of_isSome (x := s.operationModules root)
    (by rw [← Option.isSome_map, hlists]; rfl)
  rw [h] at hlists
  exact ⟨modules, h, Option.some.inj hlists, operationModules_gathers h⟩

end Scope

end SchemaBindings
