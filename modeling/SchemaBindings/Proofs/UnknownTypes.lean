import SchemaBindings.Proofs.Ancestors
import SchemaBindings.Proofs.Failure
import SchemaBindings.Proofs.Places
import SchemaBindings.Proofs.Unions

/-!
# References to types that are defined nowhere

A document refers to types in its fields, arguments, members and bases. Mapping resolves each of these names, but for
the bases that come with another one, and fails at the first name that means nothing; which names a step resolves is
told by `Scope.Blames`. Without cycles among interfaces, every name that is left out at one place is resolved at
another: so the documents of a run are mapped without failure exactly if no reference dangles (`failure_iff_dangling`).
-/

namespace SchemaBindings

open Schema Relation

/-! ### References -/

/-- The types that fields refer to, with those of their arguments. -/
def fieldReferences (fields : List FieldDefinition) : List String :=
  fields.flatMap fun field => field.type.name :: field.arguments.map fun a => a.type.name

theorem flatMap_fieldReferences (fields : List FieldDefinition) :
    (fields.flatMap fun field => fieldReferences [field]) = fieldReferences fields := by
  simp [fieldReferences]

/-- The types that a definition refers to. The fields of operation roots count if `apis` asks for them; what roots
implement does not count. -/
def Schema.Definition.references (apis : Bool) : Definition → List String
  | object type =>
    if Naming.isRoot type.name then if apis then fieldReferences type.fields else []
    else fieldReferences type.fields ++ type.interfaces
  | interface type => fieldReferences type.fields ++ type.interfaces
  | input _ _ fields => fields.map fun field => field.type.name
  | union _ _ members => members
  | _ => []

namespace Scope

/-- A name that means nothing. -/
structure Unknown (s : Scope) (n : String) : Prop where
  notBuiltin : builtinScalars.lookup n = none
  noTarget : s.targets.find? n = none
  notKnown : n ∉ s.known

/-- A name that some definition of a run refers to, although it is no built-in scalar, has no target and no document
defines it. -/
structure Dangling (o : Options) (documents : List Document) (n : String) : Prop where
  notBuiltin : builtinScalars.lookup n = none
  noTarget : (ofRun o documents).targets.find? n = none
  undefined : n ∉ typeNames documents
  referenced : ∃ d ∈ documents.flatten, n ∈ d.references (ofRun o documents).targets.generatesApis

/-- The failure of mapping the documents of a run one after the other, if there is one. -/
def firstFailure? (s : Scope) (documents : List Document) : Option UnknownType :=
  documents.findSome? fun document => (s.mapDocument document).failure

instance (s : Scope) (n : String) : Decidable (s.Unknown n) :=
  decidable_of_iff (builtinScalars.lookup n = none ∧ s.targets.find? n = none ∧ n ∉ s.known)
    ⟨fun ⟨hb, ht, hk⟩ => ⟨hb, ht, hk⟩, fun ⟨hb, ht, hk⟩ => ⟨hb, ht, hk⟩⟩

variable {s : Scope}

theorem not_unknown_of_known {n : String} (h : n ∈ s.known) : ¬ s.Unknown n := fun hn => hn.notKnown h

/-! ### Failures and their names -/

/-- A failure blames one of the names, which is unknown; if there is no failure, none of them is. -/
def Blames (s : Scope) (names : List String) : Option UnknownType → Prop
  | none => ∀ n ∈ names, ¬ s.Unknown n
  | some e => e.name ∈ names ∧ s.Unknown e.name

namespace Blames

variable {names names' : List String} {f f' : Option UnknownType}

/-- Names that are known can be added, and names can come in another order and more than once. -/
theorem congr (h : s.Blames names f) (hnames : ∀ n, s.Unknown n → (n ∈ names ↔ n ∈ names')) : s.Blames names' f := by
  cases f with
  | none => exact fun n hn hunknown => h n ((hnames n hunknown).2 hn) hunknown
  | some e => exact ⟨(hnames e.name h.2).1 h.1, h.2⟩

theorem nil : s.Blames [] none := fun _ hn => absurd hn List.not_mem_nil

theorem or (h : s.Blames names f) (h' : s.Blames names' f') : s.Blames (names ++ names') (f.or f') := by
  cases f with
  | some e => exact ⟨List.mem_append_left _ h.1, h.2⟩
  | none =>
    cases f' with
    | some e => exact ⟨List.mem_append_right _ h'.1, h'.2⟩
    | none => exact fun n hn => (List.mem_append.1 hn).elim (h n) (h' n)

theorem findSome? {α : Type} {l : List α} {names : α → List String} {f : α → Option UnknownType}
    (h : ∀ a ∈ l, s.Blames (names a) (f a)) : s.Blames (l.flatMap names) (l.findSome? f) := by
  induction l with
  | nil => exact nil
  | cons a l ih =>
    have hrest := ih fun b hb => h b (List.mem_cons_of_mem a hb)
    have hor : (a :: l).findSome? f = (f a).or (l.findSome? f) := by
      rw [List.findSome?_cons]
      cases f a <;> rfl
    rw [List.flatMap_cons, hor]
    exact (h a List.mem_cons_self).or hrest

theorem mapM {α β : Type} {l : List α} {names : α → List String} {f : α → Except UnknownType β}
    (h : ∀ a ∈ l, s.Blames (names a) (failure? (f a))) : s.Blames (l.flatMap names) (failure? (l.mapM f)) := by
  rw [failure?_mapM]
  exact findSome? h

theorem bind {α β : Type} {x : Except UnknownType α} {f : α → Except UnknownType β} (h : s.Blames names (failure? x))
    (h' : ∀ a, s.Blames names' (failure? (f a))) : s.Blames (names ++ names') (failure? (x >>= f)) := by
  cases x with
  | ok a => exact h.or (h' a)
  | error e => exact ⟨List.mem_append_left _ h.1, h.2⟩

theorem bind_pure {α β : Type} {x : Except UnknownType α} {f : α → β} (h : s.Blames names (failure? x)) :
    s.Blames names (failure? (x >>= fun a => pure (f a))) := by
  rwa [failure?_bind_pure]

end Blames

/-! ### Parts of classes -/

theorem blames_resolveName (s : Scope) (n : String) (context : Option String) :
    s.Blames [n] (failure? (s.resolveName n context)) := by
  have hknown (h : ¬ s.Unknown n) : ∀ m ∈ [n], ¬ s.Unknown m := fun m hm => List.mem_singleton.1 hm ▸ h
  unfold resolveName
  split
  · next hb => exact hknown fun h => by rw [h.notBuiltin] at hb; cases hb
  · next hb =>
    split
    · next ht => split <;> exact hknown fun h => by rw [h.noTarget] at ht; cases ht
    · next ht =>
      split
      · next hk => exact hknown (not_unknown_of_known (List.contains_iff_mem.1 hk))
      · next hk => exact ⟨List.mem_singleton.2 rfl, hb, ht, fun h => hk (List.contains_iff_mem.2 h)⟩

theorem blames_resolve (s : Scope) (type : TypeExpr) (context : Option String) :
    s.Blames [type.name] (failure? (s.resolve type context)) :=
  (s.blames_resolveName type.name context).bind_pure

theorem blames_mapArguments (s : Scope) (owner : String) (used : List String) (values : List InputValue) :
    s.Blames (values.map fun a => a.type.name) (failure? (s.mapArguments owner used values)) := by
  induction values generalizing used with
  | nil => exact Blames.nil
  | cons value values ih =>
    rw [mapArguments]
    exact (s.blames_resolve value.type (some owner)).bind fun _ => (ih _).bind_pure

theorem blames_mapFields (s : Scope) (owner : String) (used : List String) (fields : List FieldDefinition) :
    s.Blames (fieldReferences fields) (failure? (s.mapFields owner used fields)) :=
  Blames.mapM fun field _ => (s.blames_resolve field.type (some owner)).bind fun _ =>
    (s.blames_mapArguments owner used field.arguments).bind_pure

theorem blames_mapInputFields (s : Scope) (owner : String) (fields : List InputValue) :
    s.Blames (fields.map fun field => field.type.name) (failure? (s.mapInputFields owner fields)) := by
  have hreferences : fieldReferences (fields.map fun field =>
      { name := field.name, description := field.description, arguments := [], type := field.type }) =
        fields.map fun field => field.type.name := by
    rw [fieldReferences, List.flatMap_map]
    exact List.map_eq_flatMap.symm
  exact hreferences ▸ s.blames_mapFields owner [] _

theorem blames_mapBases (s : Scope) (owner : String) (names : List String) :
    s.Blames (s.minimalNames names) (failure? (s.mapBases owner names)) := by
  have h : s.Blames ((s.minimalNames names).flatMap fun n => [n]) (failure? (s.mapBases owner names)) :=
    Blames.mapM fun n _ => s.blames_resolveName n (some owner)
  rwa [List.flatMap_singleton'] at h

theorem blames_mapOperation (s : Scope) (root : String) (field : FieldDefinition) :
    s.Blames (fieldReferences [field]) (failure? (s.mapOperation root field)) := by
  have hreferences : fieldReferences [field] = [field.type.name] ++ field.arguments.map fun a => a.type.name := by
    simp [fieldReferences]
  rw [hreferences]
  exact (s.blames_resolve field.type _).bind fun _ => (s.blames_mapArguments _ _ field.arguments).bind_pure

/-! ### Definitions -/

/-- The types that mapping a definition of a document resolves: of its bases, only the minimal ones. -/
def resolvedNames (s : Scope) (document : Document) : Definition → List String
  | .object type =>
    if Naming.isRoot type.name then if s.targets.generatesApis then fieldReferences type.fields else []
    else fieldReferences type.fields ++ s.minimalNames (type.interfaces ++ unionsContaining document type.name)
  | .interface type => fieldReferences type.fields ++ s.minimalNames type.interfaces
  | .input _ _ fields => fields.map fun field => field.type.name
  | .union _ _ members => members
  | _ => []

theorem blames_rootModule (s : Scope) (root : FieldedDefinition) :
    s.Blames (fieldReferences root.fields) (failure? (s.rootModule root)) := by
  exact flatMap_fieldReferences root.fields ▸
    (Blames.mapM fun field _ => s.blames_mapOperation root.name field).bind_pure

theorem blames_operationModules (s : Scope) (root : FieldedDefinition) :
    s.Blames (fieldReferences root.fields) (failure? (s.operationModules root)) := by
  -- each field is mapped for a module of its own, and once more for the root
  have hsingle : s.Blames (fieldReferences root.fields) (failure? (root.fields.mapM (s.operationModule root.name))) :=
    flatMap_fieldReferences root.fields ▸ Blames.mapM fun field _ => (s.blames_mapOperation root.name field).bind_pure
  exact (hsingle.bind fun _ => (s.blames_rootModule root).bind_pure).congr fun n _ => by simp

theorem blames_definitionModules (s : Scope) (document : Document) (d : Definition) :
    s.Blames (s.resolvedNames document d) ((s.definitionModules? document d).bind failure?) := by
  match d with
  | .object type =>
    show s.Blames _ (failure? (if Naming.isRoot type.name then _ else _))
    rw [resolvedNames]
    split
    · split
      · exact s.blames_operationModules type
      · exact Blames.nil
    · exact ((s.blames_mapFields _ _ type.fields).bind fun _ => (s.blames_mapBases _ _).bind_pure).bind_pure
  | .interface type =>
    exact ((s.blames_mapFields _ _ type.fields).bind fun _ => (s.blames_mapBases _ _).bind_pure).bind_pure
  | .input name description fields => exact (s.blames_mapInputFields name fields).bind_pure.bind_pure
  | .union name description members =>
    have h : s.Blames (members.flatMap fun n => [n])
        (failure? (members.mapM fun n => do return (← s.resolveName n (some name)).target)) :=
      Blames.mapM fun n _ => (s.blames_resolveName n (some name)).bind_pure
    rw [List.flatMap_singleton'] at h
    exact h.bind_pure.bind_pure
  | .enumeration .. | .scalar _ | .schema | .directive _ | .extension .. | .operation _ | .fragment _ =>
    exact Blames.nil

/-- The resolvers resolve the names of types and the references of their fields. -/
theorem blames_resolverModule (s : Scope) (document : Document) :
    s.Blames ((resolvedTypes document).flatMap fun type => type.1.name :: fieldReferences type.1.fields)
      (failure? (s.resolverModule document)) :=
  (Blames.mapM fun type _ => (s.blames_resolveName type.1.name _).bind fun _ =>
    (s.blames_mapFields _ _ type.1.fields).bind_pure).bind_pure

/-! ### Documents -/

theorem failure_ofSteps (steps : List (Option (Except UnknownType (List Module)))) :
    (Mapped.ofSteps steps).failure = steps.findSome? fun step => step.bind failure? := by
  induction steps with
  | nil => rfl
  | cons step steps ih =>
    match step with
    | none => exact ih
    | some (.ok modules) => exact ih
    | some (.error e) => rfl

/-- The types that mapping a document resolves. -/
def documentNames (s : Scope) (document : Document) : List String :=
  document.flatMap (s.resolvedNames document) ++
    (resolvedTypes document).flatMap fun type => type.1.name :: fieldReferences type.1.fields

theorem blames_mapDocument (s : Scope) (document : Document) :
    s.Blames (s.documentNames document) (s.mapDocument document).failure := by
  have hlast : failure? (do return [← s.resolverModule document] : Except UnknownType (List Module)) =
      failure? (s.resolverModule document) := failure?_bind_pure _ _
  rw [mapDocument, failure_ofSteps, steps, List.findSome?_append, List.findSome?_map, List.findSome?_singleton,
    Option.bind_some, hlast]
  exact (Blames.findSome? fun d _ => s.blames_definitionModules document d).or (s.blames_resolverModule document)

theorem blames_firstFailure (s : Scope) (documents : List Document) :
    s.Blames (documents.flatMap s.documentNames) (s.firstFailure? documents) :=
  Blames.findSome? fun document _ => s.blames_mapDocument document

/-! ### Which references are resolved -/

section

variable {o : Options} {documents : List Document} {n : String}

theorem unknown_ofRun_iff : (ofRun o documents).Unknown n ↔
    builtinScalars.lookup n = none ∧ (ofRun o documents).targets.find? n = none ∧ n ∉ typeNames documents := by
  rw [← mem_known_ofDocuments (t := (ofRun o documents).targets)]
  exact ⟨fun h => ⟨h.notBuiltin, h.noTarget, h.notKnown⟩, fun h => ⟨h.1, h.2.1, h.2.2⟩⟩

private theorem typeName_of_unknown (hn : (ofRun o documents).Unknown n) {document : Document}
    (hdocument : document ∈ documents) {d : Definition} (hd : d ∈ document) : d.typeName? ≠ some n := by
  intro hname
  refine (unknown_ofRun_iff.1 hn).2.2 (List.mem_filterMap.2 ⟨d, List.mem_flatten.2 ⟨document, hdocument, hd⟩, hname⟩)

/-- A listed name that means nothing is an interface that the definition says it implements. -/
private theorem mem_implements_of_listed (hn : (ofRun o documents).Unknown n) {document : Document}
    (hdocument : document ∈ documents) {d : Definition} (h : n ∈ d.listed document) : n ∈ d.implements := by
  match d, h with
  | .object type, h =>
    refine (List.mem_append.1 h).resolve_right fun hunion => ?_
    obtain ⟨description, members, hd, -⟩ := mem_unionsContaining.1 hunion
    exact typeName_of_unknown hn hdocument hd rfl
  | .interface type, h => exact h

/-- The names that mapping resolves are references, but for names that are known. -/
private theorem mem_references_of_resolvedNames (hn : (ofRun o documents).Unknown n) {document : Document}
    (hdocument : document ∈ documents) {d : Definition} (h : n ∈ (ofRun o documents).resolvedNames document d) :
    n ∈ d.references (ofRun o documents).targets.generatesApis := by
  have hbases {names : List String} {d : Definition} (h : n ∈ (ofRun o documents).minimalNames names)
      (hlisted : names = d.listed document) : n ∈ d.implements :=
    mem_implements_of_listed hn hdocument (hlisted ▸ (mem_minimalNames.1 h).1)
  match d, h with
  | .object type, h =>
    rw [resolvedNames] at h
    rw [Definition.references]
    split at h
    · next hroot => rwa [if_pos hroot]
    · next hroot =>
      rw [if_neg hroot]
      exact List.mem_append.2 ((List.mem_append.1 h).imp_right fun h => hbases (d := .object type) h rfl)
  | .interface type, h =>
    exact List.mem_append.2 ((List.mem_append.1 h).imp_right fun h => hbases (d := .interface type) h rfl)
  | .input .., h => exact h
  | .union .., h => exact h

private theorem exists_reference_of_resolvedTypes (hn : (ofRun o documents).Unknown n) {document : Document}
    (hdocument : document ∈ documents) {type : FieldedDefinition × Bool} (htype : type ∈ resolvedTypes document)
    (h : n ∈ type.1.name :: fieldReferences type.1.fields) :
    ∃ d ∈ document, n ∈ d.references (ofRun o documents).targets.generatesApis := by
  obtain ⟨d, hd, he⟩ := List.mem_filterMap.1 htype
  refine ⟨d, hd, ?_⟩
  have hname : d.typeName? = some type.1.name ∧ (n ∈ fieldReferences type.1.fields →
      n ∈ d.references (ofRun o documents).targets.generatesApis) := by
    match d, he with
    | .object body, he =>
      have he : (if Naming.isRoot body.name then none else some (body, false)) = some type := he
      split at he
      · cases he
      · next hroot =>
        cases he
        refine ⟨rfl, fun h => ?_⟩
        rw [Definition.references, if_neg hroot]
        exact List.mem_append_left _ h
    | .interface body, he =>
      have he : (if Naming.isRoot body.name then none else some (body, true)) = some type := he
      split at he
      · cases he
      · cases he
        exact ⟨rfl, fun h => List.mem_append_left _ h⟩
  -- the resolvers also resolve the name of the type itself, which the document defines
  rcases List.mem_cons.1 h with rfl | h
  · exact absurd hname.1 (typeName_of_unknown hn hdocument hd)
  · exact hname.2 h

/-- A type that implements a name resolves it, unless another of its bases inherits the name; then some interface
resolves it. -/
private theorem exists_resolved_of_implements (hacyclic : ∀ n, n ∉ (ofRun o documents).ancestors n)
    {document : Document} (hdocument : document ∈ documents) {d : Definition} (hd : d ∈ document)
    (hroot : ∀ type, d = .object type → Naming.isRoot type.name = false) (h : n ∈ d.implements) :
    ∃ document ∈ documents, ∃ d ∈ document, n ∈ (ofRun o documents).resolvedNames document d := by
  have hlisted : n ∈ d.listed document := mem_listed_of_implements h
  by_cases hminimal : ∀ m ∈ d.listed document, n ∉ (ofRun o documents).ancestors m
  · refine ⟨document, hdocument, d, hd, ?_⟩
    have hmem := mem_minimalNames.2 ⟨hlisted, hminimal⟩
    match d, h with
    | .object type, h =>
      rw [resolvedNames, hroot type rfl]
      exact List.mem_append_right _ hmem
    | .interface type, h => exact List.mem_append_right _ hmem
  · obtain ⟨m, hm, hnm⟩ : ∃ m ∈ d.listed document, n ∈ (ofRun o documents).ancestors m := by simpa using hminimal
    -- some interface implements `n`, so it is a base of some interface
    obtain ⟨a, -, han⟩ := TransGen.tail'_iff.1 (mem_ancestors_iff.1 hnm)
    obtain ⟨type, htype, hmem⟩ := exists_minimal_of_edge hacyclic han
    obtain ⟨document', hdocument', htype⟩ := List.mem_flatten.1 htype
    exact ⟨document', hdocument', _, htype, List.mem_append_right _ hmem⟩

private theorem exists_resolved_of_references (hacyclic : ∀ n, n ∉ (ofRun o documents).ancestors n)
    {document : Document} (hdocument : document ∈ documents) {d : Definition} (hd : d ∈ document)
    (h : n ∈ d.references (ofRun o documents).targets.generatesApis) :
    ∃ document ∈ documents, ∃ d ∈ document, n ∈ (ofRun o documents).resolvedNames document d := by
  match d, h with
  | .object type, h =>
    rw [Definition.references] at h
    split at h
    · next hroot =>
      refine ⟨document, hdocument, _, hd, ?_⟩
      rwa [resolvedNames, if_pos hroot]
    · next hroot =>
      rcases List.mem_append.1 h with h | h
      · refine ⟨document, hdocument, _, hd, ?_⟩
        rw [resolvedNames, if_neg hroot]
        exact List.mem_append_left _ h
      · exact exists_resolved_of_implements hacyclic hdocument hd (by rintro _ ⟨⟩; simpa using hroot) h
  | .interface type, h =>
    rcases List.mem_append.1 h with h | h
    · exact ⟨document, hdocument, _, hd, List.mem_append_left _ h⟩
    · exact exists_resolved_of_implements hacyclic hdocument hd (by rintro _ ⟨⟩) h
  | .input .., h => exact ⟨document, hdocument, _, hd, h⟩
  | .union .., h => exact ⟨document, hdocument, _, hd, h⟩

/-- Of the names that mean nothing, a run without cycles resolves exactly those that are referred to. -/
theorem mem_documentNames_iff (hacyclic : ∀ n, n ∉ (ofRun o documents).ancestors n)
    (hn : (ofRun o documents).Unknown n) : n ∈ documents.flatMap (ofRun o documents).documentNames ↔
      ∃ d ∈ documents.flatten, n ∈ d.references (ofRun o documents).targets.generatesApis := by
  constructor
  · intro h
    obtain ⟨document, hdocument, h⟩ := List.mem_flatMap.1 h
    obtain ⟨d, hd, h⟩ : ∃ d ∈ document, n ∈ d.references (ofRun o documents).targets.generatesApis := by
      rcases List.mem_append.1 h with h | h
      · obtain ⟨d, hd, h⟩ := List.mem_flatMap.1 h
        exact ⟨d, hd, mem_references_of_resolvedNames hn hdocument h⟩
      · obtain ⟨type, htype, h⟩ := List.mem_flatMap.1 h
        exact exists_reference_of_resolvedTypes hn hdocument htype h
    exact ⟨d, List.mem_flatten.2 ⟨document, hdocument, hd⟩, h⟩
  · rintro ⟨d, hd, h⟩
    obtain ⟨document, hdocument, hd⟩ := List.mem_flatten.1 hd
    obtain ⟨document, hdocument, d, hd, h⟩ := exists_resolved_of_references hacyclic hdocument hd h
    exact List.mem_flatMap.2
      ⟨document, hdocument, List.mem_append_left _ (List.mem_flatMap.2 ⟨d, hd, h⟩)⟩

theorem dangling_iff : Dangling o documents n ↔ (ofRun o documents).Unknown n ∧
    ∃ d ∈ documents.flatten, n ∈ d.references (ofRun o documents).targets.generatesApis := by
  rw [unknown_ofRun_iff]
  exact ⟨fun h => ⟨⟨h.notBuiltin, h.noTarget, h.undefined⟩, h.referenced⟩, fun h => ⟨h.1.1, h.1.2.1, h.1.2.2, h.2⟩⟩

/-- Mapping a run without cycles fails at a reference that means nothing, or there is none. -/
theorem blames_references (hacyclic : ∀ n, n ∉ (ofRun o documents).ancestors n) :
    (ofRun o documents).Blames
      (documents.flatten.flatMap fun d => d.references (ofRun o documents).targets.generatesApis)
      ((ofRun o documents).firstFailure? documents) := by
  refine (blames_firstFailure _ documents).congr fun n hn => ?_
  rw [mem_documentNames_iff hacyclic hn, List.mem_flatMap]

theorem mapsAll_of_references (hacyclic : ∀ n, n ∉ (ofRun o documents).ancestors n)
    (h : ∀ d ∈ documents.flatten, ∀ n ∈ d.references (ofRun o documents).targets.generatesApis,
      ¬ (ofRun o documents).Unknown n) : (ofRun o documents).MapsAll documents := by
  have hblames := blames_references hacyclic
  cases hfailure : (ofRun o documents).firstFailure? documents with
  | none => exact List.findSome?_eq_none_iff.1 hfailure
  | some e =>
    rw [hfailure] at hblames
    obtain ⟨d, hd, he⟩ := List.mem_flatMap.1 hblames.1
    exact absurd hblames.2 (h d hd e.name he)

/-- Mapping the documents of a run without cycles among interfaces fails exactly if a reference dangles, and the
failure names one that does. -/
theorem failure_iff_dangling (hacyclic : ∀ n ∈ interfaceNames documents, n ∉ (ofRun o documents).ancestors n) :
    (((ofRun o documents).firstFailure? documents).isSome ↔ ∃ n, Dangling o documents n) ∧
      ∀ e, (ofRun o documents).firstFailure? documents = some e → Dangling o documents e.name := by
  have hblames := blames_references (not_mem_ancestors_self hacyclic)
  cases hfailure : (ofRun o documents).firstFailure? documents with
  | none =>
    rw [hfailure] at hblames
    refine ⟨⟨nofun, fun ⟨n, h⟩ => ?_⟩, nofun⟩
    obtain ⟨hn, hreferenced⟩ := dangling_iff.1 h
    exact absurd hn (hblames n (List.mem_flatMap.2 hreferenced))
  | some e =>
    rw [hfailure] at hblames
    have he : Dangling o documents e.name := dangling_iff.2 ⟨hblames.2, List.mem_flatMap.1 hblames.1⟩
    exact ⟨⟨fun _ => ⟨e.name, he⟩, fun _ => rfl⟩, fun e' he' => by cases he'; exact he⟩

end

/-- A file implements a missing type and an interface that inherits it: the interface fails in place of the file. -/
theorem failure_iff_dangling_inherited :
    let documents : List Document :=
      [[.interface ⟨"Node", none, ["Missing"], []⟩], [.object ⟨"File", none, ["Node", "Missing"], []⟩]]
    (∀ n ∈ interfaceNames documents, n ∉ (ofRun .unset documents).ancestors n) ∧
      Dangling .unset documents "Missing" ∧ ((ofRun .unset documents).firstFailure? documents).isSome := by
  intro documents
  have hacyclic : ∀ n ∈ interfaceNames documents, n ∉ (ofRun .unset documents).ancestors n := by
    intro n hn h
    obtain ⟨a, -, han⟩ := TransGen.tail'_iff.1 (mem_ancestors_iff.1 h)
    obtain ⟨type, htype, -, hmem⟩ := exists_of_edge_ofRun han
    have hinterfaces : ∀ d ∈ documents.flatten, ∀ type, d = .interface type → type.interfaces = ["Missing"] := by
      simp [documents]
    rw [hinterfaces _ htype type rfl, List.mem_singleton] at hmem
    rw [hmem] at hn
    exact absurd hn (by decide)
  have hdangling : Dangling .unset documents "Missing" :=
    ⟨by decide, by decide +kernel, by decide, _, List.mem_cons_self, List.mem_cons_self⟩
  exact ⟨hacyclic, hdangling, (failure_iff_dangling hacyclic).1.2 ⟨"Missing", hdangling⟩⟩

end Scope

end SchemaBindings
