import Mathlib.Data.List.Flatten
import SchemaBindings.Layout
import SchemaBindings.Proofs.Identifiers
import SchemaBindings.Proofs.Places

/-!
# Names of members

The classes of a module have members for names of the schema: attributes for fields and values, methods for operations
and resolvers, and an attribute for each type with resolvers. The name of a member is made of one name of the schema
alone, whatever the other names are. So no member replaces another one exactly if the names are kept apart in the
sense of `KeptApart`, for attributes (`nodup_attributes_iff`), and in the sense of `MethodsApart`, for methods and
accessors (`nodup_methods_iff`).
-/

namespace SchemaBindings

open Schema

/-! ### Members -/

/-- A line that gives a class a member: the name of the member, and what stands around it. -/
structure Member where
  before : String
  name : String
  after : String
  deriving DecidableEq, Repr

namespace Member

/-- The line of the member. -/
def line (x : Member) : String := Layout.indented (x.before ++ x.name ++ x.after)

/-- The attribute for a field. -/
def ofField (o : Options) (f : Field) : Member :=
  { before := "", name := f.identifier, after := ": " ++ f.type.annotation ++ Layout.fieldValue o f }

/-- The attribute for a value of an enumeration. -/
def ofValue (value : String) : Member :=
  { before := "", name := Naming.safeIdentifier value, after := " = " ++ Text.quoted value }

/-- A method with some fixed parameters. -/
def method (name fixed : String) (arguments : List Argument) (result : Reference) : Member :=
  { before := "def ", name,
    after := "(" ++ fixed ++ Layout.signature arguments ++ ") -> " ++ result.annotation ++ ":" }

/-- The method for an operation. -/
def ofOperation (operation : Operation) : Member :=
  method operation.method "self" operation.arguments operation.returnType

/-- The method that resolves a field of a type. -/
def ofResolver (entry : ResolverEntry) (f : Field) : Member :=
  method (Naming.methodName f.name) ("self, parent: " ++ entry.modelClass) f.arguments f.type

/-- The attribute for the resolvers of a type. -/
def accessor (entry : ResolverEntry) : Member :=
  { before := "", name := entry.accessor, after := ": " ++ entry.resolverClass }

@[simp] theorem name_ofOperation (operation : Operation) : (ofOperation operation).name = operation.method := rfl

@[simp] theorem name_ofResolver (entry : ResolverEntry) (f : Field) :
    (ofResolver entry f).name = Naming.methodName f.name := by
  simp only [ofResolver, method]

@[simp] theorem name_accessor (entry : ResolverEntry) : (accessor entry).name = entry.accessor := rfl

theorem line_ofField (o : Options) (f : Field) : (ofField o f).line = Layout.fieldDeclaration o f := by
  simp [ofField, line, Layout.fieldDeclaration, String.append_assoc]

theorem line_ofValue (value : String) : (ofValue value).line = Layout.memberLine value := by
  simp [ofValue, line, Layout.memberLine, String.append_assoc]

theorem line_method (name fixed : String) (arguments : List Argument) (result : Reference) :
    (method name fixed arguments result).line = Layout.methodLine name fixed arguments result := by
  simp [method, line, Layout.methodLine, String.append_assoc]

theorem line_accessor (entry : ResolverEntry) : (accessor entry).line = Layout.accessorLine entry := by
  simp [accessor, line, Layout.accessorLine, String.append_assoc]

end Member

/-- The members that stand for names of the schema, for each class of the module. -/
def Module.members (o : Options) (m : Module) : List (List Member) :=
  match m.body with
  | .record _ fields _ => [fields.map (Member.ofField o)]
  | .enumeration values => [values.map Member.ofValue]
  | .union _ => [[]]
  | .operations _ _ methods => [methods.map Member.ofOperation]
  | .resolvers entries =>
    entries.map (fun e => e.fields.map (Member.ofResolver e)) ++ [entries.map Member.accessor]

/-! ### Where members stand -/

private theorem map_sublist_flatMap {α β : Type} {f : α → β} {g : α → List β} (h : ∀ a, f a ∈ g a) (l : List α) :
    (l.map f).Sublist (l.flatMap g) := by
  rw [List.map_eq_flatMap]
  exact List.Sublist.flatMap_right l fun a _ => List.singleton_sublist.2 (h a)

/-- The lines of a class stand in its body, which is not empty then. -/
private theorem sublist_body {lines body : List String} (h : lines.Sublist body) :
    lines.Sublist (if body.isEmpty then Layout.emptyBody else body) := by
  cases body with
  | nil => exact List.eq_nil_of_sublist_nil h ▸ List.nil_sublist _
  | cons line body => exact h

private theorem members_sublist_record (o : Options) (m : Module) (kind : RecordKind) (fields : List Field)
    (bases : List Reference) :
    (fields.map fun f => (Member.ofField o f).line).Sublist (Layout.recordLines o m kind fields bases) := by
  have hfields : (fields.map fun f => (Member.ofField o f).line).Sublist (fields.flatMap (Layout.fieldLines o)) := by
    refine map_sublist_flatMap (fun f => ?_) fields
    rw [Member.line_ofField]
    exact List.mem_append_right _ (List.mem_singleton.2 rfl)
  have hbody : (fields.map fun f => (Member.ofField o f).line).Sublist (Layout.recordBody o m fields) := by
    unfold Layout.recordBody
    exact sublist_body ((hfields.trans (List.sublist_append_right _ _)).trans (List.sublist_append_left _ _))
  exact hbody.trans (List.sublist_append_right _ _)

private theorem members_sublist_enumeration (m : Module) (values : List String) :
    (values.map fun value => (Member.ofValue value).line).Sublist (Layout.enumerationLines m values) := by
  simp only [Member.line_ofValue]
  unfold Layout.enumerationLines
  exact (sublist_body (List.sublist_append_right _ _)).trans (List.sublist_append_right _ _)

private theorem members_sublist_operations (m : Module) (root : String) (whole : Bool) (methods : List Operation) :
    (methods.map fun p => (Member.ofOperation p).line).Sublist (Layout.operationsLines m root whole methods) := by
  have hmethods : (methods.map fun p => (Member.ofOperation p).line).Sublist
      (methods.flatMap (Layout.operationLines root)) := by
    refine map_sublist_flatMap (fun p => ?_) methods
    rw [Member.ofOperation, Member.line_method]
    simp [Layout.operationLines]
  unfold Layout.operationsLines
  exact (sublist_body (hmethods.trans (List.sublist_append_right _ _))).trans (List.sublist_append_right _ _)

private theorem members_sublist_resolvers (m : Module) (entries : List ResolverEntry) :
    ((entries.flatMap fun e => e.fields.map fun f => (Member.ofResolver e f).line) ++
      entries.map fun e => (Member.accessor e).line).Sublist (Layout.resolversLines m entries) := by
  have hentry (e : ResolverEntry) :
      (e.fields.map fun f => (Member.ofResolver e f).line).Sublist (Layout.resolverEntryLines e) := by
    have hmethods : (e.fields.map fun f => (Member.ofResolver e f).line).Sublist
        (e.fields.flatMap (Layout.resolverMethodLines e)) := by
      refine map_sublist_flatMap (fun f => ?_) e.fields
      rw [Member.ofResolver, Member.line_method]
      simp [Layout.resolverMethodLines]
    exact (hmethods.trans (List.sublist_append_right _ _)).trans (List.sublist_append_left _ _)
  have hentries := List.Sublist.flatMap_right entries fun e _ => hentry e
  have haccessors : (entries.map fun e => (Member.accessor e).line).Sublist
      (if entries.isEmpty then Layout.emptyBody else entries.map Layout.accessorLine) := by
    simp only [Member.line_accessor]
    cases entries with
    | nil => exact List.nil_sublist _
    | cons e entries => exact List.Sublist.refl _
  unfold Layout.resolversLines
  exact ((hentries.trans (List.sublist_append_right _ _)).trans (List.sublist_append_left _ _)).append haccessors

/-- The members stand in the text of the module, class by class. -/
theorem Module.members_sublist (o : Options) (m : Module) :
    ((m.members o).flatten.map Member.line).Sublist (Layout.lines o m) := by
  unfold Layout.lines members
  cases m.body with
  | record kind fields bases => simpa [Function.comp_def] using members_sublist_record o m kind fields bases
  | enumeration values => simpa [Function.comp_def] using members_sublist_enumeration m values
  | union members => exact List.nil_sublist _
  | operations root whole methods =>
    simpa [Function.comp_def] using members_sublist_operations m root whole methods
  | resolvers entries =>
    simpa [Function.comp_def, List.map_flatten, List.flatMap] using members_sublist_resolvers m entries

/-! ### Names of the schema -/

namespace Schema.Definition

/-- The names that become attributes of the class of a definition. -/
def attributeNames : Definition → List String
  | object type | interface type => type.fields.map FieldDefinition.name
  | input _ _ fields => fields.map InputValue.name
  | enumeration _ _ values => values
  | _ => []

end Schema.Definition

namespace Scope

variable {s : Scope} {document : Document} {m : Module}

section

variable {owner : String} {used : List String} {definitions : List FieldDefinition} {fields : List Field}
  (h : s.mapFields owner used definitions = .ok fields)

include h

theorem map_name_of_mapFields : fields.map Field.name = definitions.map FieldDefinition.name := by
  refine map_eq_of_mapM h fun definition f h => ?_
  obtain ⟨type, -, h⟩ := bind_eq_ok_iff.1 h
  obtain ⟨arguments, -, rfl⟩ := bind_pure_eq_ok_iff.1 h
  rfl

theorem map_identifier_of_mapFields :
    fields.map Field.identifier = (definitions.map FieldDefinition.name).map Naming.safeIdentifier := by
  rw [List.map_map]
  refine map_eq_of_mapM h fun definition f h => ?_
  obtain ⟨type, -, h⟩ := bind_eq_ok_iff.1 h
  obtain ⟨arguments, -, rfl⟩ := bind_pure_eq_ok_iff.1 h
  rw [Function.comp_apply]

/-- The attributes of a class with fields are named after them. -/
private theorem map_name_attributes (o : Options) :
    (fields.map (Member.ofField o)).map Member.name =
      (definitions.map FieldDefinition.name).map Naming.safeIdentifier := by
  rw [← map_identifier_of_mapFields h, List.map_map]
  rfl

end

private theorem exists_attributes {d : Definition} {n : String} (hmodel : d.modelName? = some n)
    (hm : m ∈ stepModules (s.definitionModules? document d)) (o : Options) :
    ∃ members, m.members o = [members] ∧ members.map Member.name = d.attributeNames.map Naming.safeIdentifier := by
  obtain ⟨modules, hstep, hm⟩ := mem_stepModules_iff.1 hm
  cases yields_of_definitionModules hstep with
  | operations hroot => simp [Definition.modelName?, hroot] at hmodel
  | withoutApis => cases hm
  | object hroot h =>
    obtain ⟨fields, hfields, bases, -, rfl⟩ := objectModule_eq_ok_iff.1 (List.mem_singleton.1 hm ▸ h)
    exact ⟨_, rfl, map_name_attributes hfields o⟩
  | interface h =>
    obtain ⟨fields, hfields, bases, -, rfl⟩ := interfaceModule_eq_ok_iff.1 (List.mem_singleton.1 hm ▸ h)
    exact ⟨_, rfl, map_name_attributes hfields o⟩
  | enumeration =>
    rw [List.mem_singleton.1 hm]
    exact ⟨_, rfl, List.map_map⟩
  | input h =>
    obtain ⟨fields, hfields, rfl⟩ := inputModule_eq_ok_iff.1 (List.mem_singleton.1 hm ▸ h)
    refine ⟨_, rfl, (map_name_attributes hfields o).trans ?_⟩
    simp only [Definition.attributeNames, List.map_map, Function.comp_def]
  | union h =>
    obtain ⟨targets, -, rfl⟩ := unionModule_eq_ok_iff.1 (List.mem_singleton.1 hm ▸ h)
    exact ⟨_, rfl, rfl⟩

/-! ### Attributes -/

/-- The attributes for the fields or values of a definition stand in the text of its model, and no two of them have
one name exactly if the fields or values are distinct and kept apart. -/
theorem nodup_attributes_iff {d : Definition} {n : String} (hmodel : d.modelName? = some n)
    (hm : m ∈ stepModules (s.definitionModules? document d)) (o : Options) :
    ((m.members o).flatten.map Member.line).Sublist (Layout.lines o m) ∧
      ∃ members, m.members o = [members] ∧
        ((members.map Member.name).Nodup ↔ d.attributeNames.Nodup ∧ Naming.KeptApart d.attributeNames) := by
  obtain ⟨members, hmembers, hnames⟩ := exists_attributes hmodel hm o
  refine ⟨m.members_sublist o, members, hmembers, ?_⟩
  rw [hnames, Naming.nodup_map_safeIdentifier_iff]

/-- A type with a reserved word and a name with a low line before it, which stay apart. -/
theorem nodup_attributes_user :
    let d : Definition := .object ⟨"User", none, [],
      [⟨"class", none, [], .named "ID" false⟩, ⟨"_name", none, [], .named "String" true⟩]⟩
    let s := ofRun .unset [[d]]
    ∃ m ∈ stepModules (s.definitionModules? [d] d), ∃ members ∈ m.members .unset,
      members.map Member.name = ["class_", "name_"] ∧ (members.map Member.name).Nodup := by
  intro d s
  obtain ⟨m, hm, members, hmem, hnames⟩ : ∃ m ∈ stepModules (s.definitionModules? [d] d),
      ∃ members ∈ m.members .unset, members.map Member.name = ["class_", "name_"] := by
    decide +kernel
  have hmodel : d.modelName? = some "User" := by decide
  obtain ⟨-, only, honly, hnodup⟩ := nodup_attributes_iff hmodel hm .unset
  have he : members = only := List.mem_singleton.1 (honly ▸ hmem)
  exact ⟨m, hm, members, hmem, hnames, he ▸ hnodup.2 (by decide +kernel)⟩

/-- Distinct fields, and distinct values, may become one attribute: a reserved word and the same word with a low line
after it, and names with a low line before and after them. -/
theorem shared_attributes :
    (let d : Definition := .object ⟨"T", none, [],
        [⟨"class", none, [], .named "Int" false⟩, ⟨"class_", none, [], .named "Int" false⟩]⟩
      let s := ofRun .unset [[d]]
      d.attributeNames.Nodup ∧ ∃ m ∈ stepModules (s.definitionModules? [d] d), ∃ members ∈ m.members .unset,
        members.map Member.name = ["class_", "class_"]) ∧
    (let d : Definition := .enumeration "E" none ["_A", "A_"]
      let s := ofRun .unset [[d]]
      d.attributeNames.Nodup ∧ ∃ m ∈ stepModules (s.definitionModules? [d] d), ∃ members ∈ m.members .unset,
        members.map Member.name = ["A_", "A_"]) := by
  decide +kernel

/-! ### Methods and accessors -/

private theorem method_of_mapOperation {root : String} {field : FieldDefinition} {operation : Operation}
    (h : s.mapOperation root field = .ok operation) : operation.method = Naming.methodName field.name := by
  obtain ⟨returnType, -, h⟩ := bind_eq_ok_iff.1 h
  obtain ⟨arguments, -, rfl⟩ := bind_pure_eq_ok_iff.1 h
  dsimp only

private theorem names_of_resolverEntry {type : FieldedDefinition} {isInterface : Bool} {entry : ResolverEntry}
    (h : s.resolverEntry type isInterface = .ok entry) :
    (entry.fields.map (Member.ofResolver entry)).map Member.name =
        (type.fields.map FieldDefinition.name).map Naming.methodName ∧
      entry.accessor = Naming.methodName type.name := by
  obtain ⟨model, -, h⟩ := bind_eq_ok_iff.1 h
  obtain ⟨fields, hfields, rfl⟩ := bind_pure_eq_ok_iff.1 h
  refine ⟨?_, by dsimp only⟩
  simp only [← map_name_of_mapFields hfields, List.map_map, Function.comp_def, Member.name_ofResolver]

/-- The methods and accessors stand in the texts of their modules. In the module of an operation root, and for each
type in a module of resolvers, no two methods have one name exactly if the fields are kept apart in snake case; no two
accessors have one name exactly if the types are. -/
theorem nodup_methods_iff (s : Scope) (o : Options) :
    (∀ root m, s.rootModule root = .ok m → ((m.members o).flatten.map Member.line).Sublist (Layout.lines o m) ∧
      ∃ methods, m.members o = [methods] ∧
        ((methods.map Member.name).Nodup ↔ Naming.MethodsApart (root.fields.map FieldDefinition.name))) ∧
    ∀ document m, s.resolverModule document = .ok m →
      ((m.members o).flatten.map Member.line).Sublist (Layout.lines o m) ∧
      ∃ classes accessors, m.members o = classes ++ [accessors] ∧
        List.Forall₂ (fun type methods => (methods.map Member.name).Nodup ↔
          Naming.MethodsApart (type.1.fields.map FieldDefinition.name)) (resolvedTypes document) classes ∧
        ((accessors.map Member.name).Nodup ↔
          Naming.MethodsApart ((resolvedTypes document).map fun type => type.1.name)) := by
  refine ⟨fun root m h => ⟨m.members_sublist o, ?_⟩, fun document m h => ⟨m.members_sublist o, ?_⟩⟩
  · obtain ⟨operations, hoperations, rfl⟩ := rootModule_eq_ok_iff.1 h
    refine ⟨_, rfl, ?_⟩
    have hnames : (operations.map Member.ofOperation).map Member.name =
        (root.fields.map FieldDefinition.name).map Naming.methodName := by
      simp only [List.map_map, Function.comp_def, Member.name_ofOperation]
      exact map_eq_of_mapM hoperations fun field operation h => method_of_mapOperation h
    rw [hnames, Naming.nodup_map_methodName_iff]
  · obtain ⟨entries, hentries, rfl⟩ := resolverModule_eq_ok_iff.1 h
    refine ⟨_, _, rfl, ?_, ?_⟩
    · rw [List.forall₂_map_right_iff]
      refine (mapM_eq_ok_iff.1 hentries).imp fun type entry h => ?_
      rw [(names_of_resolverEntry h).1, Naming.nodup_map_methodName_iff]
    · have hnames : (entries.map Member.accessor).map Member.name =
          ((resolvedTypes document).map fun type => type.1.name).map Naming.methodName := by
        simp only [List.map_map, Function.comp_def, Member.name_accessor]
        exact map_eq_of_mapM hentries fun type entry h => (names_of_resolverEntry h).2
      rw [hnames, Naming.nodup_map_methodName_iff]

/-- A root with two operations, and a type with the resolvers of two fields. -/
theorem nodup_methods_user :
    let root : FieldedDefinition := ⟨"Query", none, [], [⟨"user", none, [], .named "User" false⟩,
      ⟨"allUsers", none, [], .list (.named "User" true) true⟩]⟩
    let document : Document := [.object root, .object ⟨"User", none, [],
      [⟨"firstName", none, [], .named "String" false⟩, ⟨"class", none, [], .named "Int" false⟩]⟩]
    let s := ofRun .unset [document]
    (∃ m, s.rootModule root = .ok m ∧ ∀ methods ∈ m.members .unset, (methods.map Member.name).Nodup) ∧
      ∃ m, s.resolverModule document = .ok m ∧ ∀ members ∈ m.members .unset, (members.map Member.name).Nodup := by
  intro root document s
  obtain ⟨hoperations, hresolvers⟩ := nodup_methods_iff s .unset
  constructor
  · obtain ⟨m, hm⟩ : ∃ m, s.rootModule root = .ok m := exists_eq_ok_of_isSome (by decide +kernel)
    obtain ⟨-, methods, hmethods, hnodup⟩ := hoperations root m hm
    refine ⟨m, hm, fun methods' h => ?_⟩
    rw [hmethods, List.mem_singleton] at h
    exact h ▸ hnodup.2 (by decide +kernel)
  · obtain ⟨m, hm⟩ : ∃ m, s.resolverModule document = .ok m := exists_eq_ok_of_isSome (by decide +kernel)
    obtain ⟨-, classes, accessors, hmembers, hclasses, haccessors⟩ := hresolvers document m hm
    refine ⟨m, hm, fun members h => ?_⟩
    have htypes : resolvedTypes document = [(⟨"User", none, [],
        [⟨"firstName", none, [], .named "String" false⟩, ⟨"class", none, [], .named "Int" false⟩]⟩, false)] := rfl
    rw [htypes] at hclasses haccessors
    obtain ⟨methods, _, hmethods, hnone, rfl⟩ := List.forall₂_cons_left_iff.1 hclasses
    rw [List.forall₂_nil_left_iff.1 hnone] at hmembers
    rw [hmembers, List.singleton_append, List.mem_pair] at h
    rcases h with rfl | rfl
    · exact hmethods.2 (by decide +kernel)
    · exact haccessors.2 (by decide +kernel)

/-- Distinct fields may become one method of a root and one resolver of a type, and distinct types one accessor. -/
theorem shared_methods :
    (let document : Document := [.object ⟨"Query", none, [],
        [⟨"userName", none, [], .named "ID" false⟩, ⟨"user_name", none, [], .named "ID" false⟩]⟩]
      ∃ m ∈ ((ofRun .unset [document]).mapDocument document).modules, m.className = "Query" ∧
        ∃ methods ∈ m.members .unset, methods.map Member.name = ["user_name", "user_name"]) ∧
    (let document : Document := [.object ⟨"User", none, [],
          [⟨"userName", none, [], .named "ID" false⟩, ⟨"user_name", none, [], .named "ID" false⟩]⟩,
        .object ⟨"user", none, [], [⟨"a", none, [], .named "Int" false⟩]⟩]
      let mapped := (ofRun .unset [document]).mapDocument document
      (typeNames [document]).Nodup ∧ ∃ m ∈ mapped.modules, m.className = "Resolvers" ∧
        (m.members .unset).map (fun members => members.map Member.name) =
          [["user_name", "user_name"], ["a"], ["user", "user"]]) := by
  decide +kernel

end Scope

end SchemaBindings
