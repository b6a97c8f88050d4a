import Mathlib.Data.List.Nodup
import Mathlib.Data.List.Perm.Basic
import SchemaBindings.Proofs.Locations
import SchemaBindings.Proofs.Places
import SchemaBindings.Proofs.SnakeCase

/-!
# Files of a document

Each module of a document goes to the file that its package and the snake case of its class tell. Snake case forgets
some capitals, so different classes may share a file. A document has a file for each module exactly if its models
differ in snake case, the fields of each operation root do so too, and no model shares a file with an operation or the
resolvers (`nodup_relativePath_iff`).
-/

namespace SchemaBindings

open Schema Naming

/-! ### Files of classes -/

/-- The path of the file that holds a class. -/
def ClassPlace.path (p : ClassPlace) : String :=
  "/".intercalate ((Text.split '.' p.package).filter (!·.isEmpty) ++ [moduleName p.className ++ ".py"])

theorem Module.relativePath_eq_path (m : Module) : m.relativePath = m.place.path := rfl

/-- In one package, classes share a file exactly if they agree in snake case. -/
theorem exists_path_eq (package : String) :
    ∃ file : String → String, file.Injective ∧ ∀ c, ClassPlace.path ⟨package, c⟩ = file (moduleName c) := by
  obtain ⟨directory, h⟩ := Text.exists_intercalate_append "/".toList
    (((Text.split '.' package).filter (!·.isEmpty)).map String.toList)
  refine ⟨fun name => String.ofList (directory ++ (name ++ ".py").toList), fun a b he => ?_, fun c => ?_⟩
  · simpa using he
  · rw [← String.toList_inj, ClassPlace.path, String.toList_intercalate, List.map_append, List.map_singleton]
    exact (h _).trans String.toList_ofList.symm

theorem nodup_map_path_iff {α : Type} (package : String) (className : α → String) (l : List α) :
    (l.map fun a => ClassPlace.path ⟨package, className a⟩).Nodup ↔
      (l.map fun a => moduleName (className a)).Nodup := by
  obtain ⟨file, hinjective, hfile⟩ := exists_path_eq package
  have hmap : (l.map fun a => ClassPlace.path ⟨package, className a⟩) =
      (l.map fun a => moduleName (className a)).map file := by
    rw [List.map_map]
    exact List.map_congr_left fun a _ => hfile (className a)
  rw [hmap, List.nodup_map_iff hinjective]

/-! ### Names of operations -/

theorem moduleName_of_isRoot {root : String} (h : isRoot root = true) : moduleName root = operationKind root := by
  have hall : ∀ a ∈ ["Query", "Mutation", "Subscription"], moduleName a = operationKind a := by decide +kernel
  exact hall root (List.contains_iff_mem.1 h)

/-- The module of a field of a root has the name of the field and the kind of operation. -/
theorem moduleName_append_root {name root : String} (hname : IsWord name) (hroot : isRoot root = true) :
    moduleName (name ++ root) = moduleName name ++ "_" ++ operationKind root := by
  have hword : ∀ a ∈ ["Query", "Mutation", "Subscription"], ∃ u small, a.toList = u :: small ∧ u.isUpper = true ∧
      small ≠ [] ∧ ∀ c ∈ small, c.isLower = true := by
    simp
  obtain ⟨u, small, he, hu, hne, hsmall⟩ := hword root (List.contains_iff_mem.1 hroot)
  have hcs : name.toList ≠ [] := mt String.toList_eq_nil_iff.1 hname.1
  rw [← String.toList_inj, moduleName, snakeCase, String.toList_append, he, snakeChars_append hcs hname.2 hu hne hsmall,
    moduleName, snakeCase, operationKind, he]
  simp

/-- The kinds of operations tell the roots apart, whatever stands before them, and so do the resolvers. -/
private theorem kind_suffix {root root' : String} (h : isRoot root = true) (h' : isRoot root' = true) {x : List Char}
    (hx : (operationKind root).toList <:+ x) (hx' : (operationKind root').toList <:+ x) : root = root' := by
  have hall : ∀ a ∈ ["Query", "Mutation", "Subscription"], ∀ b ∈ ["Query", "Mutation", "Subscription"],
      (operationKind a).toList <:+ (operationKind b).toList → a = b := by decide +kernel
  rcases List.suffix_or_suffix_of_suffix hx hx' with hs | hs
  · exact hall root (List.contains_iff_mem.1 h) root' (List.contains_iff_mem.1 h') hs
  · exact (hall root' (List.contains_iff_mem.1 h') root (List.contains_iff_mem.1 h) hs).symm

private theorem not_kind_suffix_resolvers {root : String} (h : isRoot root = true) :
    ¬ (operationKind root).toList <:+ (moduleName Scope.resolversClass).toList := by
  have hall : ∀ a ∈ ["Query", "Mutation", "Subscription"],
      ¬ (operationKind a).toList <:+ (moduleName Scope.resolversClass).toList := by decide +kernel
  exact hall root (List.contains_iff_mem.1 h)

/-- The fields of an operation root. -/
def Schema.Definition.rootFields : Definition → List FieldDefinition
  | .object type => if isRoot type.name then type.fields else []
  | _ => []

/-- Do the fields of operation roots have names as schemas write them? -/
def RootFieldsNamed (document : Document) : Prop := ∀ d ∈ document, ∀ f ∈ d.rootFields, IsWord f.name

/-- Do the fields of each operation root differ in the snake case of their classes? -/
def RootFieldsApart (document : Document) : Prop :=
  ∀ d ∈ document, (d.rootFields.map fun f => moduleName (capitalize f.name)).Nodup

instance (document : Document) : Decidable (RootFieldsNamed document) := by
  unfold RootFieldsNamed
  infer_instance

instance (document : Document) : Decidable (RootFieldsApart document) := by
  unfold RootFieldsApart
  infer_instance

theorem rootFields_of_isRoot {type : FieldedDefinition} (h : isRoot type.name = true) :
    (Definition.object type).rootFields = type.fields := if_pos h

variable {document : Document}

private theorem kind_suffix_moduleName (hnamed : RootFieldsNamed document) {d : Definition} (hd : d ∈ document)
    {x : String} (hx : x ∈ d.operationClasses.map moduleName) :
    ∃ type, d = .object type ∧ isRoot type.name = true ∧ (operationKind type.name).toList <:+ x.toList := by
  obtain ⟨c, hc, rfl⟩ := List.mem_map.1 hx
  obtain ⟨type, rfl, hroot, hclass⟩ := Definition.exists_root_of_mem_operationClasses hc
  refine ⟨type, rfl, hroot, ?_⟩
  rcases hclass with ⟨f, hf, rfl⟩ | rfl
  · have hname := hnamed _ hd f (rootFields_of_isRoot hroot ▸ hf)
    rw [moduleName_append_root hname.capitalize hroot, String.toList_append]
    exact List.suffix_append _ _
  · exact ⟨[], by rw [List.nil_append, moduleName_of_isRoot hroot]⟩

/-- The modules of a root differ if those of its fields do. -/
private theorem nodup_moduleName_root_iff {type : FieldedDefinition} (hroot : isRoot type.name = true)
    (hnamed : ∀ f ∈ type.fields, IsWord f.name) :
    ((Definition.object type).operationClasses.map moduleName).Nodup ↔
      (type.fields.map fun f => moduleName (capitalize f.name)).Nodup := by
  have hfields : (type.fields.map fun f => moduleName (capitalize f.name ++ type.name)) =
      (type.fields.map fun f => moduleName (capitalize f.name)).map (· ++ "_" ++ operationKind type.name) := by
    rw [List.map_map]
    exact List.map_congr_left fun f hf => moduleName_append_root (hnamed f hf).capitalize hroot
  have hinjective : (· ++ "_" ++ operationKind type.name : String → String).Injective := by
    intro a b h
    simpa [String.append_assoc] using h
  have hshorter (name : String) : name ++ "_" ++ operationKind type.name ≠ operationKind type.name := by
    intro h
    have := congrArg String.length h
    simp only [String.length_append] at this
    have hone : "_".length = 1 := rfl
    omega
  rw [Definition.operationClasses, if_pos hroot, List.map_append, List.map_map, List.map_singleton,
    moduleName_of_isRoot hroot, List.nodup_append]
  constructor
  · rintro ⟨hnodup, -, -⟩
    exact (List.nodup_map_iff hinjective).1 (hfields ▸ hnodup)
  · intro hnodup
    refine ⟨?_, List.nodup_singleton _, fun a ha b hb => ?_⟩
    · exact hfields ▸ (List.nodup_map_iff hinjective).2 hnodup
    · obtain ⟨f, hf, rfl⟩ := List.mem_map.1 ha
      rw [List.mem_singleton.1 hb, Function.comp_apply, moduleName_append_root (hnamed f hf).capitalize hroot]
      exact hshorter _

private theorem nodup_moduleName_operationClasses_iff (hnamed : RootFieldsNamed document) {d : Definition}
    (hd : d ∈ document) :
    (d.operationClasses.map moduleName).Nodup ↔ (d.rootFields.map fun f => moduleName (capitalize f.name)).Nodup := by
  match d, hd with
  | .object type, hd =>
    by_cases hroot : isRoot type.name = true
    · have hfields := rootFields_of_isRoot hroot
      rw [hfields]
      exact nodup_moduleName_root_iff hroot (hfields ▸ hnamed _ hd)
    · simp [Definition.operationClasses, Definition.rootFields, hroot]
  | .interface _, _ | .scalar _, _ | .schema, _ | .directive _, _ | .extension .., _ | .operation _, _ | .fragment _, _
  | .enumeration .., _ | .input .., _ | .union .., _ => simp [Definition.operationClasses, Definition.rootFields]

/-! ### Files of operations -/

namespace Scope

/-- The classes for the operations and resolvers of a document. -/
def apiClasses (s : Scope) (document : Document) : List String :=
  (if s.targets.generatesApis then document.flatMap Definition.operationClasses else []) ++ [resolversClass]

variable {s : Scope}

/-- With distinct names, operations and resolvers share a file only if two fields of one root do. -/
theorem nodup_moduleName_apiClasses_iff (hdistinct : (document.filterMap Definition.typeName?).Nodup)
    (hnamed : RootFieldsNamed document) :
    ((s.apiClasses document).map moduleName).Nodup ↔ (s.targets.generatesApis = true → RootFieldsApart document) := by
  -- two roots of a document have different names, so the ends of their modules differ
  have hpairs : document.Pairwise
      (Function.onFun List.Disjoint fun d => d.operationClasses.map moduleName) := by
    refine (List.pairwise_filterMap.1 hdistinct).imp_of_mem fun {d d'} hd hd' hne x hx hx' => ?_
    obtain ⟨type, rfl, hroot, hsuffix⟩ := kind_suffix_moduleName hnamed hd hx
    obtain ⟨type', rfl, hroot', hsuffix'⟩ := kind_suffix_moduleName hnamed hd' hx'
    exact hne _ rfl _ rfl (kind_suffix hroot hroot' hsuffix hsuffix')
  have hoperations :
      (document.flatMap fun d => d.operationClasses.map moduleName).Nodup ↔ RootFieldsApart document := by
    rw [List.nodup_flatMap, and_iff_left hpairs]
    exact forall_congr' fun d => forall_congr' fun hd => nodup_moduleName_operationClasses_iff hnamed hd
  cases hapis : s.targets.generatesApis with
  | false => simp [apiClasses, hapis]
  | true =>
    have hmap : (s.apiClasses document).map moduleName =
        (document.flatMap fun d => d.operationClasses.map moduleName) ++ [moduleName resolversClass] := by
      simp [apiClasses, hapis, List.map_flatMap]
    have hresolvers :
        ∀ x ∈ document.flatMap fun d => d.operationClasses.map moduleName, x ≠ moduleName resolversClass := by
      rintro x hx rfl
      obtain ⟨d, hd, hx⟩ := List.mem_flatMap.1 hx
      obtain ⟨type, rfl, hroot, hsuffix⟩ := kind_suffix_moduleName hnamed hd hx
      exact not_kind_suffix_resolvers hroot hsuffix
    rw [hmap, List.nodup_append, hoperations]
    constructor
    · exact fun h _ => h.1
    · refine fun hapart => ⟨hapart rfl, List.nodup_singleton _, fun x hx y hy => ?_⟩
      rw [List.mem_singleton.1 hy]
      exact hresolvers x hx

/-! ### Files of a document -/

/-- Models come among operations in the order of the definitions; apart from the order, these are the classes. -/
theorem documentPlaces_perm (s : Scope) (document : Document) :
    (s.documentPlaces document).Perm
      ((modelNames document).map (fun n => ⟨s.targets.modelPackage, s.className n⟩) ++
        (s.apiClasses document).map (fun c => ⟨s.targets.apiPackage, c⟩)) := by
  have hmodels : document.flatMap
        (fun d => d.modelName?.toList.map fun n => ClassPlace.mk s.targets.modelPackage (s.className n)) =
      (modelNames document).map (fun n => ⟨s.targets.modelPackage, s.className n⟩) := by
    rw [modelNames, List.filterMap_eq_flatMap_toList, List.map_flatMap]
  have hapis : (document.flatMap fun d => if s.targets.generatesApis then
          d.operationClasses.map fun c => ClassPlace.mk s.targets.apiPackage c else []) ++
        [⟨s.targets.apiPackage, resolversClass⟩] =
      (s.apiClasses document).map (fun c => ⟨s.targets.apiPackage, c⟩) := by
    cases h : s.targets.generatesApis <;> simp [apiClasses, h, List.map_flatMap]
  rw [← hmodels, ← hapis, ← List.append_assoc]
  exact ((List.flatMap_append_perm document _ _).symm).append_right _

/-- Each module of a document has a file of its own exactly if its models differ in snake case, the fields of each
operation root do so too where there are operations, and no model has the path of an operation or the resolvers. -/
theorem nodup_relativePath_iff (h : (s.mapDocument document).failure = none)
    (hdistinct : (document.filterMap Definition.typeName?).Nodup) (hnamed : RootFieldsNamed document) :
    ((s.mapDocument document).modules.map Module.relativePath).Nodup ↔
      ((modelNames document).map fun n => moduleName (s.className n)).Nodup ∧
        (s.targets.generatesApis = true → RootFieldsApart document) ∧
        ∀ n ∈ modelNames document, ∀ c ∈ s.apiClasses document,
          ClassPlace.path ⟨s.targets.modelPackage, s.className n⟩ ≠ ClassPlace.path ⟨s.targets.apiPackage, c⟩ := by
  have hpaths : (s.mapDocument document).modules.map Module.relativePath =
      (s.documentPlaces document).map ClassPlace.path := by
    rw [← map_place_mapDocument h, List.map_map]
    exact List.map_congr_left fun m _ => m.relativePath_eq_path
  rw [hpaths, ((documentPlaces_perm s document).map _).nodup_iff, List.map_append, List.nodup_append, List.map_map,
    List.map_map]
  refine and_congr (nodup_map_path_iff _ _ _) (and_congr ?_ ?_)
  · exact (nodup_map_path_iff _ id _).trans (by simpa using nodup_moduleName_apiClasses_iff hdistinct hnamed)
  · simp

/-- A model, a field that returns it, the root and the resolvers have four files. -/
theorem nodup_relativePath_user :
    let document : Document := [.object ⟨"User", none, [], [⟨"name", none, [], .named "String" false⟩]⟩,
      .object ⟨"Query", none, [], [⟨"user", none, [], .named "User" false⟩]⟩]
    (((ofRun .unset [document]).mapDocument document).modules.map Module.relativePath).Nodup := by
  intro document
  exact (nodup_relativePath_iff (by decide +kernel) (by decide) (by decide +kernel)).2
    ⟨by decide +kernel, fun _ => by decide +kernel, by decide +kernel⟩

/-- Modules of one document may share a file: types whose names differ in case alone, a type that is called like the
class of an operation, and fields whose names differ in case and low lines. -/
theorem shared_relativePath :
    (let document : Document := [.object ⟨"User", none, [], [⟨"id", none, [], .named "ID" false⟩]⟩,
        .object ⟨"user", none, [], [⟨"id", none, [], .named "ID" false⟩]⟩]
      let mapped := (ofRun .unset [document]).mapDocument document
      mapped.failure = none ∧ (document.filterMap Definition.typeName?).Nodup ∧
        ¬ (mapped.modules.map Module.relativePath).Nodup) ∧
    (let document : Document := [.object ⟨"UserQuery", none, [], [⟨"id", none, [], .named "ID" false⟩]⟩,
        .object ⟨"Query", none, [], [⟨"user", none, [], .named "UserQuery" false⟩]⟩]
      let mapped := (ofRun .unset [document]).mapDocument document
      mapped.failure = none ∧ (document.filterMap Definition.typeName?).Nodup ∧
        ¬ (mapped.modules.map Module.relativePath).Nodup) ∧
    (let document : Document := [.object ⟨"Query", none, [],
        [⟨"userName", none, [], .named "ID" false⟩, ⟨"user_name", none, [], .named "ID" false⟩]⟩]
      let mapped := (ofRun .unset [document]).mapDocument document
      mapped.failure = none ∧ (document.filterMap Definition.typeName?).Nodup ∧
        ¬ (mapped.modules.map Module.relativePath).Nodup) := by
  decide +kernel

end Scope

end SchemaBindings
