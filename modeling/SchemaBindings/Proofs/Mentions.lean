import SchemaBindings.Proofs.UnknownTypes

/-!
# Mentions of types

Every module that imports something is made from one subject: a definition, a field of an operation root, or all types
of a document together. A subject mentions types, in annotations or as what its class extends. Its module can be made
exactly if each mention can be read, and then the uses of the module are, one after the other, what the mentions mean
(`reads_of_moduleOf`).
-/

namespace SchemaBindings

open Schema

/-! ### Subjects -/

/-- What a module with imports is made from. -/
inductive Subject
  | object (document : Document) (type : FieldedDefinition)
  | interface (type : FieldedDefinition)
  | input (name : String) (description : Option String) (fields : List InputValue)
  /-- One field of an operation root. -/
  | operation (root : String) (field : FieldDefinition)
  /-- All fields of an operation root. -/
  | root (type : FieldedDefinition)
  /-- All types of a document that have resolvers. -/
  | resolvers (document : Document)

/-- A type that a subject mentions: extended by its class, or written in an annotation. -/
structure Mention where
  type : TypeExpr
  isBase : Bool

namespace Mention

/-- A type in an annotation. -/
def typed (type : TypeExpr) : Mention := ⟨type, false⟩

/-- A type that is extended. -/
def base (name : String) : Mention := ⟨.named name false, true⟩

end Mention

/-- The types of fields, each with those of its arguments. -/
def fieldMentions (fields : List FieldDefinition) : List Mention :=
  fields.flatMap fun field => .typed field.type :: field.arguments.map fun a => .typed a.type

namespace Scope

/-- The types that a subject mentions. Of the types that a class extends only the minimal ones count; a resolver
mentions the type whose field it resolves. -/
def mentions (s : Scope) : Subject → List Mention
  | .object document type =>
    fieldMentions type.fields ++
      (s.minimalNames (type.interfaces ++ unionsContaining document type.name)).map Mention.base
  | .interface type => fieldMentions type.fields ++ (s.minimalNames type.interfaces).map Mention.base
  | .input _ _ fields => fields.map fun field => .typed field.type
  | .operation _ field => fieldMentions [field]
  | .root type => fieldMentions type.fields
  | .resolvers document => (resolvedTypes document).flatMap fun type =>
    .typed (.named type.1.name false) :: fieldMentions type.1.fields

/-- The module of a subject. -/
def moduleOf (s : Scope) : Subject → Except UnknownType Module
  | .object document type => s.objectModule document type
  | .interface type => s.interfaceModule type
  | .input name description fields => s.inputModule name description fields
  | .operation root field => s.operationModule root field
  | .root type => s.rootModule type
  | .resolvers document => s.resolverModule document

/-- Where the class of the module of a subject is to be found. -/
def placeOf (s : Scope) : Subject → ClassPlace
  | .object _ type | .interface type => ⟨s.targets.modelPackage, s.className type.name⟩
  | .input name .. => ⟨s.targets.modelPackage, s.className name⟩
  | .operation root field => ⟨s.targets.apiPackage, Naming.capitalize field.name ++ root⟩
  | .root type => ⟨s.targets.apiPackage, type.name⟩
  | .resolvers _ => ⟨s.targets.apiPackage, resolversClass⟩

/-- Does the scope give the reference to the mention? -/
def Reads (s : Scope) (q : Mention) (r : Reference) : Prop := ∃ context, s.resolve q.type context = .ok r

variable {s : Scope} {x : Subject} {m : Module} {q : Mention} {r r' : Reference}

/-- What a mention means does not depend on its place. -/
theorem Reads.unique (h : s.Reads q r) (h' : s.Reads q r') : r = r' := by
  obtain ⟨context, h⟩ := h
  obtain ⟨context', h'⟩ := h'
  obtain ⟨named, hnamed, rfl⟩ := bind_pure_eq_ok_iff.1 h
  obtain ⟨named', hnamed', rfl⟩ := bind_pure_eq_ok_iff.1 h'
  rw [Except.ok.inj (hnamed.symm.trans (resolveName_of_ok hnamed'))]

theorem reads_base {n : String} {context : Option String} (h : s.resolveName n context = .ok r) :
    s.Reads (.base n) r := by
  refine ⟨context, bind_pure_eq_ok_iff.2 ⟨r, h, ?_⟩⟩
  rw [eq_plain_of_resolveName h]
  rfl

/-! ### Uses -/

/-- Is the use what the mention means? -/
def UsedAs (s : Scope) (q : Mention) (u : Use) : Prop := u.isBase = q.isBase ∧ s.Reads q u.reference

theorem usedAs_typed {type : TypeExpr} {context : Option String} (h : s.resolve type context = .ok r) :
    s.UsedAs (.typed type) ⟨r, false⟩ := ⟨rfl, context, h⟩

theorem usedAs_mapArguments {owner : String} {used : List String} {values : List InputValue}
    {arguments : List Argument} (h : s.mapArguments owner used values = .ok arguments) :
    List.Forall₂ s.UsedAs (values.map fun a => .typed a.type) (argumentUses arguments) := by
  induction values generalizing used arguments with
  | nil =>
    cases h
    exact .nil
  | cons value values ih =>
    obtain ⟨type, htype, h⟩ := bind_eq_ok_iff.1 h
    obtain ⟨others, hothers, rfl⟩ := bind_pure_eq_ok_iff.1 h
    exact .cons (usedAs_typed htype) (ih hothers)

theorem usedAs_mapFields {owner : String} {used : List String} {definitions : List FieldDefinition}
    {fields : List Field} (h : s.mapFields owner used definitions = .ok fields) :
    List.Forall₂ s.UsedAs (fieldMentions definitions) (fieldUses fields) := by
  refine List.rel_flatMap (mapM_eq_ok_iff.1 h) fun definition field hfield => ?_
  obtain ⟨type, htype, hfield⟩ := bind_eq_ok_iff.1 hfield
  obtain ⟨arguments, harguments, rfl⟩ := bind_pure_eq_ok_iff.1 hfield
  exact .cons (usedAs_typed htype) (usedAs_mapArguments harguments)

theorem usedAs_mapInputFields {owner : String} {definitions : List InputValue} {fields : List Field}
    (h : s.mapInputFields owner definitions = .ok fields) :
    List.Forall₂ s.UsedAs (definitions.map fun d => .typed d.type) (fieldUses fields) := by
  have hfields := usedAs_mapFields h
  rw [fieldMentions, List.flatMap_map] at hfields
  simpa [List.map_eq_flatMap] using hfields

theorem usedAs_mapBases {owner : String} {names : List String} {bases : List Reference}
    (h : s.mapBases owner names = .ok bases) :
    List.Forall₂ s.UsedAs ((s.minimalNames names).map Mention.base) (bases.map fun r => ⟨r, true⟩) := by
  rw [List.forall₂_map_left_iff, List.forall₂_map_right_iff]
  exact (mapM_eq_ok_iff.1 h).imp fun _ _ hbase => ⟨rfl, reads_base hbase⟩

theorem usedAs_mapOperation {root : String} {field : FieldDefinition} {operation : Operation}
    (h : s.mapOperation root field = .ok operation) :
    List.Forall₂ s.UsedAs (fieldMentions [field]) (operationUses [operation]) := by
  obtain ⟨returnType, hreturn, h⟩ := bind_eq_ok_iff.1 h
  obtain ⟨arguments, harguments, rfl⟩ := bind_pure_eq_ok_iff.1 h
  exact List.rel_append (.cons (usedAs_typed hreturn) (usedAs_mapArguments harguments)) .nil

theorem usedAs_resolverEntry {type : FieldedDefinition} {isInterface : Bool} {entry : ResolverEntry}
    (h : s.resolverEntry type isInterface = .ok entry) :
    List.Forall₂ s.UsedAs (.typed (.named type.name false) :: fieldMentions type.fields)
      (⟨entry.model, false⟩ :: fieldUses entry.fields) := by
  obtain ⟨model, hmodel, h⟩ := bind_eq_ok_iff.1 h
  obtain ⟨fields, hfields, rfl⟩ := bind_pure_eq_ok_iff.1 h
  exact .cons ⟨rfl, reads_base hmodel⟩ (usedAs_mapFields hfields)

/-- The uses of a module are, in their order, what the mentions of its subject mean. -/
theorem reads_of_moduleOf (h : s.moduleOf x = .ok m) : List.Forall₂ s.UsedAs (s.mentions x) m.body.uses := by
  cases x with
  | object document type =>
    obtain ⟨fields, hfields, bases, hbases, rfl⟩ := objectModule_eq_ok_iff.1 h
    exact List.rel_append (usedAs_mapFields hfields) (usedAs_mapBases hbases)
  | interface type =>
    obtain ⟨fields, hfields, bases, hbases, rfl⟩ := interfaceModule_eq_ok_iff.1 h
    exact List.rel_append (usedAs_mapFields hfields) (usedAs_mapBases hbases)
  | input name description fields =>
    obtain ⟨fields, hfields, rfl⟩ := inputModule_eq_ok_iff.1 h
    have hnone : (s.modelModule name description (.record .input fields [])).body.uses = fieldUses fields :=
      List.append_nil _
    rw [hnone]
    exact usedAs_mapInputFields hfields
  | operation root field =>
    obtain ⟨operation, hoperation, rfl⟩ := operationModule_eq_ok_iff.1 h
    exact usedAs_mapOperation hoperation
  | root type =>
    obtain ⟨operations, hoperations, rfl⟩ := rootModule_eq_ok_iff.1 h
    refine List.rel_flatMap (mapM_eq_ok_iff.1 hoperations) fun field operation hoperation => ?_
    simpa [fieldMentions, operationUses] using usedAs_mapOperation hoperation
  | resolvers document =>
    obtain ⟨entries, hentries, rfl⟩ := resolverModule_eq_ok_iff.1 h
    exact List.rel_flatMap (mapM_eq_ok_iff.1 hentries) fun type entry hentry => usedAs_resolverEntry hentry

theorem mem_uses_iff_of_moduleOf (h : s.moduleOf x = .ok m) {u : Use} :
    u ∈ m.body.uses ↔ ∃ q ∈ s.mentions x, s.UsedAs q u := by
  have huses := reads_of_moduleOf h
  refine ⟨exists_left_of_forall₂ huses, ?_⟩
  rintro ⟨q, hq, hbase, hr⟩
  obtain ⟨u', hu', hbase', hr'⟩ := exists_right_of_forall₂ huses hq
  obtain ⟨reference, isBase⟩ := u
  obtain ⟨reference', isBase'⟩ := u'
  cases hr.unique hr'
  cases hbase.trans hbase'.symm
  exact hu'

/-- The module of a subject imports what its uses need from its place. -/
theorem exists_assemble_of_moduleOf (h : s.moduleOf x = .ok m) :
    ∃ description body, m = .assemble s (s.placeOf x).package (s.placeOf x).className description body := by
  cases x with
  | object document type =>
    obtain ⟨fields, -, bases, -, rfl⟩ := objectModule_eq_ok_iff.1 h
    exact ⟨_, _, rfl⟩
  | interface type =>
    obtain ⟨fields, -, bases, -, rfl⟩ := interfaceModule_eq_ok_iff.1 h
    exact ⟨_, _, rfl⟩
  | input name description fields =>
    obtain ⟨fields, -, rfl⟩ := inputModule_eq_ok_iff.1 h
    exact ⟨_, _, rfl⟩
  | operation root field =>
    obtain ⟨operation, -, rfl⟩ := operationModule_eq_ok_iff.1 h
    exact ⟨_, _, rfl⟩
  | root type =>
    obtain ⟨operations, -, rfl⟩ := rootModule_eq_ok_iff.1 h
    exact ⟨_, _, rfl⟩
  | resolvers document =>
    obtain ⟨entries, -, rfl⟩ := resolverModule_eq_ok_iff.1 h
    exact ⟨_, _, rfl⟩

/-! ### Success -/

theorem map_name_fieldMentions (fields : List FieldDefinition) :
    (fieldMentions fields).map (fun q => q.type.name) = fieldReferences fields := by
  simp [fieldMentions, fieldReferences, List.map_flatMap, Mention.typed, Function.comp_def]

theorem blames_moduleOf (s : Scope) (x : Subject) :
    s.Blames ((s.mentions x).map fun q => q.type.name) (failure? (s.moduleOf x)) := by
  have hbases (names : List String) : (names.map Mention.base).map (fun q => q.type.name) = names := by
    simp [Mention.base, TypeExpr.name, Function.comp_def]
  cases x with
  | object document type =>
    rw [mentions, List.map_append, map_name_fieldMentions, hbases]
    exact (s.blames_mapFields _ _ type.fields).bind fun _ => (s.blames_mapBases _ _).bind_pure
  | interface type =>
    rw [mentions, List.map_append, map_name_fieldMentions, hbases]
    exact (s.blames_mapFields _ _ type.fields).bind fun _ => (s.blames_mapBases _ _).bind_pure
  | input name description fields =>
    rw [mentions, List.map_map]
    exact (s.blames_mapInputFields name fields).bind_pure
  | operation root field =>
    rw [mentions, map_name_fieldMentions]
    exact (s.blames_mapOperation root field).bind_pure
  | root type =>
    rw [mentions, map_name_fieldMentions]
    exact s.blames_rootModule type
  | resolvers document =>
    rw [mentions, List.map_flatMap]
    simp only [List.map_cons, map_name_fieldMentions]
    exact s.blames_resolverModule document

/-- A subject has a module exactly if all its mentions can be read. -/
theorem exists_moduleOf_iff : (∃ m, s.moduleOf x = .ok m) ↔ ∀ q ∈ s.mentions x, ∃ r, s.Reads q r := by
  constructor
  · rintro ⟨m, h⟩ q hq
    obtain ⟨u, -, -, hr⟩ := exists_right_of_forall₂ (reads_of_moduleOf h) hq
    exact ⟨u.reference, hr⟩
  · intro hreads
    cases hmodule : s.moduleOf x with
    | ok m => exact ⟨m, rfl⟩
    | error e =>
      -- the failure blames a mention, but that can be read
      have hblames := s.blames_moduleOf x
      rw [hmodule] at hblames
      obtain ⟨q, hq, hname⟩ := List.mem_map.1 hblames.1
      obtain ⟨r, context, hr⟩ := hreads q hq
      have hread := s.blames_resolve q.type context
      rw [hr] at hread
      exact absurd (hname ▸ hblames.2) (hread _ List.mem_cons_self)

end Scope

end SchemaBindings
