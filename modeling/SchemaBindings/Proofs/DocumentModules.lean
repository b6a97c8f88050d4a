import SchemaBindings.Category
import SchemaBindings.Proofs.MemberNames

/-!
# What a document yields

Mapping a document goes through its definitions twice, once for their modules and once for the resolvers, and counts
what it skips. Each definition has its share: a model, the modules of an operation root, or none; an entry among the
resolvers, or none; and the definitions of no supported category, those of a client among them, are counted
(`modules_of_document`).
-/

namespace SchemaBindings

open Schema

/-! ### Shares of definitions -/

namespace Schema.Definition

/-- Is the definition part of a schema, but of a kind that no class is made for? -/
def isUngenerated : Definition → Bool
  | scalar _ | schema | directive _ | extension .. => true
  | _ => false

/-- Is the definition what a client asks for, and no part of a schema? -/
def isExecutable : Definition → Bool
  | operation _ | fragment _ => true
  | _ => false

/-- Does the definition have fields, and another name than an operation root? -/
def hasResolvers : Definition → Bool
  | object type | interface type => !Naming.isRoot type.name
  | _ => false

theorem category_eq_unsupported_iff {d : Definition} :
    d.category = .unsupported ↔ (d.isUngenerated || d.isExecutable) = true := by
  cases d with
  | object type => cases hroot : Naming.isRoot type.name <;> simp [category, isUngenerated, isExecutable, hroot]
  | _ => simp [category, isUngenerated, isExecutable]

end Schema.Definition

/-- The category of the definition that a class is made for. Resolvers belong to a whole document. -/
def Body.category? : Body → Option Category
  | record .object .. => some .type
  | record .interface .. => some .interface
  | record .input .. => some .input
  | enumeration _ => some .enumeration
  | union _ => some .union
  | operations .. => some .operation
  | resolvers _ => none

/-- What a module is made for, and where its class is to be found. -/
def Module.outline? (m : Module) : Option (Category × ClassPlace) :=
  m.body.category?.map fun category => (category, m.place)

/-- What the modules of a definition are to be: of its category, in the places of its classes. -/
def Scope.outline (s : Scope) (d : Definition) : List (Category × ClassPlace) :=
  (s.definitionPlaces d).map fun place => (d.category, place)

/-- Does the entry have the resolvers of the definition? -/
inductive ResolverEntry.IsFor : Definition → ResolverEntry → Prop
  | object {type : FieldedDefinition} {entry : ResolverEntry} (hname : entry.name = type.name)
      (hinterface : entry.isInterface = false)
      (hfields : entry.fields.map Field.name = type.fields.map FieldDefinition.name) : IsFor (.object type) entry
  | interface {type : FieldedDefinition} {entry : ResolverEntry} (hname : entry.name = type.name)
      (hinterface : entry.isInterface = true)
      (hfields : entry.fields.map Field.name = type.fields.map FieldDefinition.name) : IsFor (.interface type) entry

/-! ### Counting -/

namespace Mapped

/-- Without failure, every step that is none at all has been counted. -/
theorem skipped_ofSteps {steps : List (Option (Except UnknownType (List Module)))}
    (h : (ofSteps steps).failure = none) : (ofSteps steps).skipped = steps.countP Option.isNone := by
  induction steps with
  | nil => rfl
  | cons first steps ih =>
    match first, h with
    | none, h => exact (congrArg (· + 1) (ih h)).trans (List.countP_cons_of_pos rfl).symm
    | some (.ok modules), h => exact (ih h).trans (List.countP_cons_of_neg (by simp)).symm
    | some (.error e), h => cases h

end Mapped

namespace Scope

variable {s : Scope} {document : Document} {d : Definition} {modules : List Module}

/-- The definitions that yield no modules at all are those of no supported category. -/
theorem definitionModules?_eq_none_iff : s.definitionModules? document d = none ↔ d.category = .unsupported := by
  cases d with
  | object type => cases hroot : Naming.isRoot type.name <;> simp [definitionModules?, Definition.category, hroot]
  | _ => simp [definitionModules?, Definition.category]

theorem skipped_mapDocument (h : (s.mapDocument document).failure = none) :
    (s.mapDocument document).skipped = document.countP fun d => d.isUngenerated || d.isExecutable := by
  rw [mapDocument, Mapped.skipped_ofSteps h, steps, List.countP_append, List.countP_map]
  have hdefinitions : document.countP (Option.isNone ∘ s.definitionModules? document) =
      document.countP fun d => d.isUngenerated || d.isExecutable :=
    List.countP_congr fun d _ => by
      rw [Function.comp_apply, Option.isNone_iff_eq_none, definitionModules?_eq_none_iff,
        Definition.category_eq_unsupported_iff]
  rw [hdefinitions]
  rfl

/-! ### Modules -/

theorem Yields.category?_eq (h : s.Yields document d modules) : ∀ m ∈ modules, m.body.category? = some d.category := by
  intro m hm
  cases h with
  | operations hroot hapis hsingle hwhole =>
    simp only [Definition.category, hroot]
    rcases List.mem_append.1 hm with hm | hm
    · obtain ⟨field, -, hfield⟩ := exists_of_mem_mapM hsingle hm
      obtain ⟨operation, -, rfl⟩ := operationModule_eq_ok_iff.1 hfield
      rfl
    · obtain ⟨operations, -, rfl⟩ := rootModule_eq_ok_iff.1 (List.mem_singleton.1 hm ▸ hwhole)
      rfl
  | withoutApis => cases hm
  | object hroot h =>
    obtain ⟨fields, -, bases, -, rfl⟩ := objectModule_eq_ok_iff.1 (List.mem_singleton.1 hm ▸ h)
    simp only [Definition.category, hroot]
    rfl
  | interface h =>
    obtain ⟨fields, -, bases, -, rfl⟩ := interfaceModule_eq_ok_iff.1 (List.mem_singleton.1 hm ▸ h)
    rfl
  | enumeration =>
    rw [List.mem_singleton.1 hm]
    rfl
  | input h =>
    obtain ⟨fields, -, rfl⟩ := inputModule_eq_ok_iff.1 (List.mem_singleton.1 hm ▸ h)
    rfl
  | union h =>
    obtain ⟨members, -, rfl⟩ := unionModule_eq_ok_iff.1 (List.mem_singleton.1 hm ▸ h)
    rfl

theorem Yields.map_outline? (h : s.Yields document d modules) :
    modules.map Module.outline? = (s.outline d).map some := by
  rw [outline, ← h.map_place, List.map_map, List.map_map]
  refine List.map_congr_left fun m hm => ?_
  rw [Module.outline?, h.category?_eq m hm]
  rfl

theorem outline_of_skipped (h : s.definitionModules? document d = none) : s.outline d = [] := by
  rw [outline, definitionPlaces_of_skipped h]
  rfl

/-! ### Resolvers -/

/-- Choosing the types that get resolvers loses nothing of their definitions. -/
theorem map_resolvedTypes (document : Document) :
    (resolvedTypes document).map (fun type => if type.2 then .interface type.1 else .object type.1) =
      document.filter Definition.hasResolvers := by
  induction document with
  | nil => rfl
  | cons d document ih =>
    unfold resolvedTypes at ih ⊢
    rw [List.filterMap_cons, List.filter_cons]
    cases d with
    | object type | interface type =>
      cases hroot : Naming.isRoot type.name with
      | true => simpa [Definition.hasResolvers, hroot] using ih
      | false => simpa [Definition.hasResolvers, hroot] using ih
    | _ => exact ih

theorem isFor_resolverEntry {type : FieldedDefinition} {isInterface : Bool} {entry : ResolverEntry}
    (h : s.resolverEntry type isInterface = .ok entry) :
    ResolverEntry.IsFor (if isInterface then .interface type else .object type) entry := by
  obtain ⟨model, -, h⟩ := bind_eq_ok_iff.1 h
  obtain ⟨fields, hfields, rfl⟩ := bind_pure_eq_ok_iff.1 h
  cases isInterface with
  | true => exact .interface rfl rfl (map_name_of_mapFields hfields)
  | false => exact .object rfl rfl (map_name_of_mapFields hfields)

/-- An entry is made for every definition that has resolvers. -/
theorem forall₂_isFor_of_mapM {entries : List ResolverEntry}
    (h : (resolvedTypes document).mapM (fun type => s.resolverEntry type.1 type.2) = .ok entries) :
    List.Forall₂ ResolverEntry.IsFor (document.filter Definition.hasResolvers) entries := by
  rw [← map_resolvedTypes, List.forall₂_map_left_iff]
  exact (mapM_eq_ok_iff.1 h).imp fun type entry hentry => isFor_resolverEntry hentry

/-! ### Documents -/

/-- Each definition of a document has its share: of the modules, in order, of the entries among the resolvers, which
have the last module, and of those that are skipped. -/
theorem modules_of_document (h : (s.mapDocument document).failure = none) :
    (∃ definitionModules resolvers entries, (s.mapDocument document).modules = definitionModules ++ [resolvers] ∧
        definitionModules.map Module.outline? = (document.flatMap s.outline).map some ∧
        resolvers.className = resolversClass ∧ resolvers.body = .resolvers entries ∧
        List.Forall₂ ResolverEntry.IsFor (document.filter Definition.hasResolvers) entries) ∧
      (s.mapDocument document).skipped = document.countP fun d => d.isUngenerated || d.isExecutable := by
  obtain ⟨resolvers, hresolvers, hmodules⟩ := exists_resolvers_mapDocument h
  have houtline := map_stepModules h (f := Module.outline?) (g := fun d => (s.outline d).map some)
    (fun d hd => by rw [outline_of_skipped hd]; rfl) fun d modules => Yields.map_outline?
  rw [← List.map_flatMap] at houtline
  obtain ⟨entries, hentries, rfl⟩ := resolverModule_eq_ok_iff.1 hresolvers
  exact ⟨⟨_, _, entries, hmodules, houtline, rfl, rfl, forall₂_isFor_of_mapM hentries⟩, skipped_mapDocument h⟩

/-- Definitions of all kinds, among them an operation root and an interface that has the name of one. -/
theorem modules_of_document_shop :
    let document : Document := [.scalar "Date", .interface ⟨"Subscription", none, [], []⟩,
      .object ⟨"Query", none, [], [⟨"item", none, [], .named "Item" false⟩, ⟨"day", none, [], .named "Date" false⟩]⟩,
      .enumeration "Color" none ["RED"], .input "Filter" none [], .schema, .union "Any" none ["Query"],
      .object ⟨"Item", none, [], [⟨"color", none, [], .named "Color" true⟩]⟩, .directive "tag",
      .interface ⟨"Node", none, [], []⟩, .extension .object (some "Item"), .operation none]
    let s := ofRun .unset [document]
    let mapped := s.mapDocument document
    mapped.failure = none ∧ mapped.skipped = 5 ∧
      (document.flatMap s.outline).map (fun place => (place.1, place.2.className)) =
        [(.interface, "Subscription"), (.operation, "ItemQuery"), (.operation, "DayQuery"), (.operation, "Query"),
          (.enumeration, "Color"), (.input, "Filter"), (.union, "Any"), (.type, "Item"), (.interface, "Node")] ∧
      ∃ definitionModules resolvers entries, mapped.modules = definitionModules ++ [resolvers] ∧
        definitionModules.map Module.outline? = (document.flatMap s.outline).map some ∧
        resolvers.className = resolversClass ∧ resolvers.body = .resolvers entries ∧
        List.Forall₂ ResolverEntry.IsFor (document.filter Definition.hasResolvers) entries := by
  intro document s mapped
  have h : mapped.failure = none := by decide +kernel
  obtain ⟨hmodules, hskipped⟩ := modules_of_document h
  exact ⟨h, by rw [hskipped]; decide, by decide +kernel, hmodules⟩

/-- What a client asks for is skipped and counted as well, though it is no part of a schema. -/
theorem skipped_query :
    let document : Document := [.operation none]
    let mapped := (ofRun .unset [document]).mapDocument document
    mapped.failure = none ∧ mapped.skipped ≠ document.countP Definition.isUngenerated := by
  decide +kernel

end Scope

end SchemaBindings
