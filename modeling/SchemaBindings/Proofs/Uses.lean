import SchemaBindings.Proofs.Meaning

/-!
# References of generated modules

Every reference that a generated class uses, in a field, an argument, a return type, a base or a resolver, is one
that the scope of the run gives to its name. This is shown for each part of a class; for whole modules it is
`resolves_of_mem_uses`.
-/

namespace SchemaBindings

open Schema

/-- The reference without null and lists. -/
def Reference.bare (r : Reference) : Reference := { r with required := false, itemsRequired := [] }

namespace Scope

/-- Is the reference, apart from null and lists, what the scope gives to its name? -/
def Resolves (s : Scope) (r : Reference) : Prop := ∃ context, s.resolveName r.schemaName context = .ok r.bare

variable {s : Scope} {context : Option String} {r : Reference}

theorem resolves_of_resolveName {n : String} (h : s.resolveName n context = .ok r) : s.Resolves r := by
  have hplain := eq_plain_of_resolveName h
  have hname : r.schemaName = n := by rw [hplain]; rfl
  have hbare : r.bare = r := by rw [hplain]; rfl
  exact ⟨context, by rw [hname, hbare, h]⟩

theorem resolves_of_resolve {type : TypeExpr} (h : s.resolve type context = .ok r) : s.Resolves r := by
  obtain ⟨named, hnamed, h⟩ := bind_eq_ok_iff.1 h
  cases h
  obtain ⟨context, hcontext⟩ := resolves_of_resolveName hnamed
  exact ⟨context, hcontext⟩

theorem Resolves.generates (h : s.Resolves r) (hr : r.isGenerated) : s.Generates r.schemaName := by
  obtain ⟨context, h⟩ := h
  exact generates_of_resolveName h hr

/-- A reference to a class of the run has the name of this class. -/
theorem Resolves.target_eq (h : s.Resolves r) (hr : r.isGenerated) : r.target = s.className r.schemaName := by
  have hg := h.generates hr
  obtain ⟨context, h⟩ := h
  rw [hg.resolveName] at h
  exact congrArg Reference.target (Except.ok.inj h).symm

/-! ### Parts of classes -/

theorem resolves_mapArguments {owner : String} {used : List String} {values : List InputValue}
    {arguments : List Argument} (h : s.mapArguments owner used values = .ok arguments) :
    ∀ u ∈ argumentUses arguments, s.Resolves u.reference := by
  induction values generalizing used arguments with
  | nil =>
    cases h
    intro u hu
    cases hu
  | cons value values ih =>
    obtain ⟨type, htype, h⟩ := bind_eq_ok_iff.1 h
    obtain ⟨others, hothers, h⟩ := bind_eq_ok_iff.1 h
    cases h
    intro u hu
    rcases List.mem_cons.1 hu with rfl | hu
    · exact resolves_of_resolve htype
    · exact ih hothers u hu

theorem resolves_mapFields {owner : String} {used : List String} {definitions : List FieldDefinition}
    {fields : List Field} (h : s.mapFields owner used definitions = .ok fields) :
    ∀ u ∈ fieldUses fields, s.Resolves u.reference := by
  intro u hu
  obtain ⟨field, hfield, hu⟩ := List.mem_flatMap.1 hu
  obtain ⟨definition, -, h⟩ := exists_of_mem_mapM h hfield
  obtain ⟨type, htype, h⟩ := bind_eq_ok_iff.1 h
  obtain ⟨arguments, harguments, h⟩ := bind_eq_ok_iff.1 h
  cases h
  rcases List.mem_cons.1 hu with rfl | hu
  · exact resolves_of_resolve htype
  · exact resolves_mapArguments harguments u hu

theorem resolves_mapBases {owner : String} {names : List String} {bases : List Reference}
    (h : s.mapBases owner names = .ok bases) : ∀ base ∈ bases, s.Resolves base := by
  intro base hbase
  obtain ⟨name, -, h⟩ := exists_of_mem_mapM h hbase
  exact resolves_of_resolveName h

theorem resolves_mapOperation {root : String} {field : FieldDefinition} {operation : Operation}
    (h : s.mapOperation root field = .ok operation) :
    ∀ u ∈ operationUses [operation], s.Resolves u.reference := by
  obtain ⟨returnType, hreturn, h⟩ := bind_eq_ok_iff.1 h
  obtain ⟨arguments, harguments, h⟩ := bind_eq_ok_iff.1 h
  cases h
  intro u hu
  obtain ⟨o, ho, hu⟩ := List.mem_flatMap.1 hu
  rw [List.mem_singleton] at ho
  subst ho
  rcases List.mem_cons.1 hu with rfl | hu
  · exact resolves_of_resolve hreturn
  · exact resolves_mapArguments harguments u hu

theorem resolves_resolverEntry {type : FieldedDefinition} {isInterface : Bool} {entry : ResolverEntry}
    (h : s.resolverEntry type isInterface = .ok entry) :
    s.Resolves entry.model ∧ ∀ u ∈ fieldUses entry.fields, s.Resolves u.reference := by
  obtain ⟨model, hmodel, h⟩ := bind_eq_ok_iff.1 h
  obtain ⟨fields, hfields, h⟩ := bind_eq_ok_iff.1 h
  cases h
  exact ⟨resolves_of_resolveName hmodel, resolves_mapFields hfields⟩

/-! ### Whole modules -/

/-- Is every reference of the module one that the scope gives? -/
def ResolvesAll (s : Scope) (m : Module) : Prop := ∀ u ∈ m.body.uses, s.Resolves u.reference

private theorem resolves_record {kind : RecordKind} {fields : List Field} {bases : List Reference}
    (hfields : ∀ u ∈ fieldUses fields, s.Resolves u.reference) (hbases : ∀ base ∈ bases, s.Resolves base) :
    ∀ u ∈ (Body.record kind fields bases).uses, s.Resolves u.reference := by
  intro u hu
  rcases List.mem_append.1 hu with hu | hu
  · exact hfields u hu
  · obtain ⟨base, hbase, rfl⟩ := List.mem_map.1 hu
    exact hbases base hbase

theorem resolvesAll_objectModule {document : Document} {type : FieldedDefinition} {m : Module}
    (h : s.objectModule document type = .ok m) : s.ResolvesAll m := by
  obtain ⟨fields, hfields, bases, hbases, rfl⟩ := objectModule_eq_ok_iff.1 h
  exact resolves_record (resolves_mapFields hfields) (resolves_mapBases hbases)

theorem resolvesAll_interfaceModule {type : FieldedDefinition} {m : Module} (h : s.interfaceModule type = .ok m) :
    s.ResolvesAll m := by
  obtain ⟨fields, hfields, bases, hbases, rfl⟩ := interfaceModule_eq_ok_iff.1 h
  exact resolves_record (resolves_mapFields hfields) (resolves_mapBases hbases)

theorem resolvesAll_inputModule {name : String} {description : Option String} {inputs : List InputValue}
    {m : Module} (h : s.inputModule name description inputs = .ok m) : s.ResolvesAll m := by
  obtain ⟨fields, hfields, rfl⟩ := inputModule_eq_ok_iff.1 h
  exact resolves_record (resolves_mapFields hfields) (by simp)

theorem resolvesAll_unionModule {name : String} {description : Option String} {members : List String} {m : Module}
    (h : s.unionModule name description members = .ok m) : s.ResolvesAll m := by
  obtain ⟨targets, -, rfl⟩ := unionModule_eq_ok_iff.1 h
  intro u hu
  cases hu

theorem resolvesAll_operationModule {root : String} {field : FieldDefinition} {m : Module}
    (h : s.operationModule root field = .ok m) : s.ResolvesAll m := by
  obtain ⟨operation, hoperation, rfl⟩ := operationModule_eq_ok_iff.1 h
  exact resolves_mapOperation hoperation

theorem resolvesAll_rootModule {root : FieldedDefinition} {m : Module} (h : s.rootModule root = .ok m) :
    s.ResolvesAll m := by
  obtain ⟨operations, hoperations, rfl⟩ := rootModule_eq_ok_iff.1 h
  intro u hu
  obtain ⟨operation, hoperation, hu⟩ := List.mem_flatMap.1 hu
  obtain ⟨field, -, hfield⟩ := exists_of_mem_mapM hoperations hoperation
  exact resolves_mapOperation hfield u (List.mem_flatMap.2 ⟨operation, List.mem_singleton.2 rfl, hu⟩)

theorem resolvesAll_resolverModule {document : Document} {m : Module} (h : s.resolverModule document = .ok m) :
    s.ResolvesAll m := by
  obtain ⟨entries, hentries, rfl⟩ := resolverModule_eq_ok_iff.1 h
  intro u hu
  obtain ⟨entry, hentry, hu⟩ := List.mem_flatMap.1 hu
  obtain ⟨type, -, htype⟩ := exists_of_mem_mapM hentries hentry
  obtain ⟨hmodel, hfields⟩ := resolves_resolverEntry htype
  rcases List.mem_cons.1 hu with rfl | hu
  · exact hmodel
  · exact hfields u hu

end Scope

end SchemaBindings
