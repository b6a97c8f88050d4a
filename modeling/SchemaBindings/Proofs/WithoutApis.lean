import SchemaBindings.Proofs.Agreement
import SchemaBindings.Proofs.Places
import SchemaBindings.Proofs.Templates

/-!
# Runs without operations

The option to generate operations decides about the modules of operation roots, and about nothing else. A run without
them has the same names as the run with them, roots included, so every other definition yields the same module
(`Yields.definitionModules_withoutApis`), with the same text; a document loses its operation modules and keeps the rest
(`mapDocument_withoutApis`).
-/

namespace SchemaBindings

open Schema

/-- The options of a run that generates no operations. -/
def Options.withoutApis (o : Options) : Options := { o with apis := some false }

/-! ### Modules of operations -/

namespace Module

/-- Does the module hold operations of a root? -/
def holdsOperations (m : Module) : Bool :=
  match m.body with
  | .operations .. => true
  | _ => false

/-- The text of a module depends on three options only. -/
theorem text_congr {o o' : Options} (hvalue : o.requiredValue = o'.requiredValue) (hfrozen : o.frozen = o'.frozen)
    (hprinting : o.printing = o'.printing) (m : Module) : m.text o = m.text o' := by
  have hvalue (f : Field) : Layout.fieldValue o f = Layout.fieldValue o' f := by
    unfold Layout.fieldValue
    rw [hvalue]
  have hlines (fields : List Field) : fields.flatMap (Layout.fieldLines o) = fields.flatMap (Layout.fieldLines o') := by
    unfold Layout.fieldLines Layout.fieldDeclaration
    simp only [hvalue]
  have hbody (fields : List Field) : Layout.recordBody o m fields = Layout.recordBody o' m fields := by
    unfold Layout.recordBody
    rw [hlines, hfrozen, hprinting]
  unfold text Layout.lines
  cases m.body with
  | record kind fields bases => dsimp only [Layout.recordLines]; rw [hbody]
  | _ => rfl

theorem render_withoutApis (o : Options) (m : Module) (tools : Tools) :
    m.render o.withoutApis.withDefaults noTemplates tools = m.render o.withDefaults noTemplates tools := by
  have htext : m.text o.withoutApis.withDefaults = m.text o.withDefaults := m.text_congr rfl rfl rfl
  unfold render noTemplates
  rw [run_draft, run_draft, htext]

end Module

/-! ### Steps of mapping -/

/-- What a step of mapping yields, with only the modules that a condition keeps. -/
def keepModules (keep : Module → Bool) :
    Option (Except UnknownType (List Module)) → Option (Except UnknownType (List Module))
  | some (.ok modules) => some (.ok (modules.filter keep))
  | step => step

theorem Mapped.ofSteps_map_keepModules (keep : Module → Bool)
    (steps : List (Option (Except UnknownType (List Module)))) :
    ofSteps (steps.map (keepModules keep)) =
      { ofSteps steps with modules := (ofSteps steps).modules.filter keep } := by
  induction steps with
  | nil => rfl
  | cons step steps ih =>
    match step with
    | none =>
      show ofSteps (none :: steps.map (keepModules keep)) = _
      rw [ofSteps, ofSteps, ih]
    | some (.ok modules) =>
      show ofSteps (some (.ok (modules.filter keep)) :: steps.map (keepModules keep)) = _
      rw [ofSteps, ofSteps, ih, List.filter_append]
    | some (.error e) => rfl

namespace Scope

variable {s s' : Scope} {document : Document}

/-- All modules of an operation root hold operations. -/
theorem holdsOperations_of_root {type : FieldedDefinition} {single : List Module} {whole : Module}
    (hsingle : type.fields.mapM (s.operationModule type.name) = .ok single) (hwhole : s.rootModule type = .ok whole) :
    ∀ m ∈ single ++ [whole], m.holdsOperations = true := by
  intro m hm
  rcases List.mem_append.1 hm with hm | hm
  · obtain ⟨field, -, hfield⟩ := exists_of_mem_mapM hsingle hm
    obtain ⟨operation, -, rfl⟩ := operationModule_eq_ok_iff.1 hfield
    rfl
  · obtain ⟨operations, -, rfl⟩ := rootModule_eq_ok_iff.1 hwhole
    rw [List.mem_singleton.1 hm]
    rfl

/-- What a definition yields in a scope with the same names that wants no operations. -/
theorem Yields.definitionModules_withoutApis (hnames : s.SameNames s') (hapis : s'.targets.generatesApis = false)
    {d : Definition} {modules : List Module} (h : s.Yields document d modules) :
    s'.definitionModules? document d = some (.ok (modules.filter (!·.holdsOperations))) := by
  cases h with
  | @operations type single whole hroot _ hsingle hwhole =>
    have hnone : (single ++ [whole]).filter (!·.holdsOperations) = [] := by
      rw [List.filter_eq_nil_iff]
      intro m hm
      simp [holdsOperations_of_root hsingle hwhole m hm]
    rw [hnone, definitionModules?, if_pos hroot, if_neg (by simp [hapis])]
  | withoutApis hroot _ => rw [definitionModules?, if_pos hroot, if_neg (by simp [hapis]), List.filter_nil]
  -- no other definition asks for the option, and none of their modules holds operations
  | object hroot h =>
    rw [definitionModules?, if_neg (by simp [hroot]), ← hnames.objectModule_eq, h]
    obtain ⟨fields, -, bases, -, rfl⟩ := objectModule_eq_ok_iff.1 h
    rfl
  | interface h =>
    rw [definitionModules?, ← hnames.interfaceModule_eq, h]
    obtain ⟨fields, -, bases, -, rfl⟩ := interfaceModule_eq_ok_iff.1 h
    rfl
  | enumeration =>
    rw [definitionModules?, ← hnames.enumerationModule_eq]
    rfl
  | input h =>
    rw [definitionModules?, ← hnames.inputModule_eq, h]
    obtain ⟨fields, -, rfl⟩ := inputModule_eq_ok_iff.1 h
    rfl
  | union h =>
    rw [definitionModules?, ← hnames.unionModule_eq, h]
    obtain ⟨members, -, rfl⟩ := unionModule_eq_ok_iff.1 h
    rfl

theorem definitionModules?_eq_none (s s' : Scope) {d : Definition} (h : s.definitionModules? document d = none) :
    s'.definitionModules? document d = none := by
  cases d <;> first | rfl | cases h

theorem steps_withoutApis (hnames : s.SameNames s') (hapis : s'.targets.generatesApis = false)
    (h : (s.mapDocument document).failure = none) :
    s'.steps document = (s.steps document).map (keepModules (!·.holdsOperations)) := by
  have hdefinition : ∀ d ∈ document,
      s'.definitionModules? document d = keepModules (!·.holdsOperations) (s.definitionModules? document d) := by
    intro d hd
    cases hstep : s.definitionModules? document d with
    | none => exact definitionModules?_eq_none s s' hstep
    | some step =>
      obtain ⟨modules, rfl⟩ := exists_ok_of_definitionModules? h hd hstep
      exact (yields_of_definitionModules hstep).definitionModules_withoutApis hnames hapis
  have hresolvers : some (do return [← s'.resolverModule document]) =
      keepModules (!·.holdsOperations) (some (do return [← s.resolverModule document])) := by
    rw [← hnames.resolverModule_eq]
    cases hmodule : s.resolverModule document with
    | error e => rfl
    | ok m =>
      obtain ⟨entries, -, rfl⟩ := resolverModule_eq_ok_iff.1 hmodule
      rfl
  rw [steps, steps, List.map_append, List.map_map, List.map_congr_left hdefinition, hresolvers]
  rfl

/-! ### Runs -/

/-- A run without operations knows the same names. -/
theorem sameNames_withoutApis (o : Options) (documents : List Document) :
    (ofRun o documents).SameNames (ofRun o.withoutApis documents) := by
  have hoptions : (ofRun o documents).targets.options = o.withDefaults := Targets.options_registerScalars ..
  have hoptions' : (ofRun o.withoutApis documents).targets.options = o.withoutApis.withDefaults :=
    Targets.options_registerScalars ..
  refine ⟨?_, ?_, fun n => ?_, fun n => ?_, fun n => Iff.rfl, fun n => rfl⟩
  · rw [Targets.modelPackage, Targets.modelPackage, hoptions, hoptions']
    rfl
  · rw [Targets.apiPackage, Targets.apiPackage, hoptions, hoptions']
    rfl
  · unfold className Targets.modelClassName
    rw [hoptions, hoptions']
    rfl
  · rw [find?_ofRun, find?_ofRun]
    rfl

/-- The modules of a document end with the one of its resolvers. -/
theorem getLast?_modules_mapDocument (h : (s.mapDocument document).failure = none) :
    ∃ m, s.resolverModule document = .ok m ∧ (s.mapDocument document).modules.getLast? = some m := by
  obtain ⟨m, hm, hmodules⟩ := exists_resolvers_mapDocument h
  exact ⟨m, hm, hmodules ▸ List.getLast?_concat⟩

/-- If a run maps a document, then without operations it maps it as well: to the same modules but for those of
operations, in the same order, with the module of the resolvers at the end; it skips as many definitions; and where no
template takes the place of a layout, each module has the same text, whatever compiles it. -/
theorem mapDocument_withoutApis (o : Options) (documents : List Document) (document : Document)
    (h : ((ofRun o documents).mapDocument document).failure = none) :
    let whole := (ofRun o documents).mapDocument document
    let rest := (ofRun o.withoutApis documents).mapDocument document
    rest = ⟨whole.modules.filter (!·.holdsOperations), whole.skipped, none⟩ ∧
      (∃ resolvers, (ofRun o documents).resolverModule document = .ok resolvers ∧
        whole.modules.getLast? = some resolvers ∧ rest.modules.getLast? = some resolvers) ∧
      ∀ m ∈ rest.modules, ∀ tools,
        m.render (ofRun o.withoutApis documents).targets.options Module.noTemplates tools =
          m.render (ofRun o documents).targets.options Module.noTemplates tools := by
  intro whole rest
  have hnames := sameNames_withoutApis o documents
  have hoptions : (ofRun o.withoutApis documents).targets.options = o.withoutApis.withDefaults :=
    Targets.options_registerScalars ..
  have hoptions' : (ofRun o documents).targets.options = o.withDefaults := Targets.options_registerScalars ..
  have hapis : (ofRun o.withoutApis documents).targets.generatesApis = false := by
    rw [Targets.generatesApis, hoptions]
    rfl
  have hrest : rest = ⟨whole.modules.filter (!·.holdsOperations), whole.skipped, none⟩ := by
    rw [← h]
    exact (congrArg Mapped.ofSteps (steps_withoutApis hnames hapis h)).trans (Mapped.ofSteps_map_keepModules _ _)
  have hfailure : rest.failure = none := by rw [hrest]
  obtain ⟨m, hm, hwhole⟩ := getLast?_modules_mapDocument h
  obtain ⟨m', hm', hlast⟩ := getLast?_modules_mapDocument hfailure
  rw [← hnames.resolverModule_eq, hm, Except.ok.injEq] at hm'
  refine ⟨hrest, ⟨m, hm, hwhole, hm' ▸ hlast⟩, fun m _ tools => ?_⟩
  rw [hoptions, hoptions']
  exact m.render_withoutApis o tools

/-- A document with an operation root, a type that refers to the root, and a scalar, which is skipped. -/
theorem mapDocument_withoutApis_user :
    let document : Document := [.scalar "Date",
      .object ⟨"Query", none, [], [⟨"user", none, [⟨"id", none, .named "ID" true, none⟩], .named "User" false⟩]⟩,
      .object ⟨"User", none, [], [⟨"born", none, [], .named "Date" false⟩, ⟨"root", none, [], .named "Query" false⟩]⟩]
    let whole := (ofRun .unset [document]).mapDocument document
    let rest := (ofRun Options.unset.withoutApis [document]).mapDocument document
    whole.failure = none ∧ whole.modules.map Module.className = ["UserQuery", "Query", "User", "Resolvers"] ∧
      rest.modules.map Module.className = ["User", "Resolvers"] ∧ rest.skipped = 1 ∧
      rest.modules = whole.modules.filter (!·.holdsOperations) := by
  intro document whole rest
  have h : whole.failure = none := by decide +kernel
  have hrest := (mapDocument_withoutApis .unset [document] document h).1
  exact ⟨h, by decide +kernel, by decide +kernel, by decide +kernel, congrArg Mapped.modules hrest⟩

end Scope

end SchemaBindings
