import SchemaBindings.Proofs.Places

/-!
# Imports of modules

A module imports what its references need, unless the import has the name of the class that the module holds
(`mem_imports_iff_of_importFor?`). This is meant for references to that class. It leaves out more: the name may also
come from the last part of a custom type, or belong to a class of the run in another package; a module imports all that
it uses exactly if it uses no such name (`importsUses_iff`).
-/

namespace SchemaBindings

open Schema

/-! ### Imports of uses -/

theorem Import.mem_sorted {i : Import} {imports : List Import} : i ∈ Import.sorted imports ↔ i ∈ imports :=
  mem_ascending _

section

variable {s : Scope} {package className : String} {uses : List Use} {i : Import}

theorem mem_runtimeImports_iff :
    i ∈ runtimeImports s package className uses ↔
      ∃ u ∈ uses, i ∈ u.wholeImports ∨ u.atRunTime = true ∧ u.import? s package className = some i := by
  simp only [runtimeImports, Import.mem_sorted, List.mem_flatMap, List.mem_append]
  refine exists_congr fun u => and_congr_right fun _ => or_congr_right ?_
  split
  · next h => simp [h]
  · next h => simp [h]

theorem mem_annotationImports_iff :
    i ∈ annotationImports s package className uses ↔ i ∉ runtimeImports s package className uses ∧
      ∃ u ∈ uses, u.atRunTime = false ∧ u.import? s package className = some i := by
  simp only [annotationImports, Import.mem_sorted, List.mem_filter, List.mem_flatMap]
  rw [and_comm]
  refine and_congr (by simp) (exists_congr fun u => and_congr_right fun _ => ?_)
  split
  · next h => simp [h]
  · next h => simp [h]

/-- Together, both kinds of imports are those that the uses need. -/
theorem mem_runtimeImports_or_iff :
    i ∈ runtimeImports s package className uses ∨ i ∈ annotationImports s package className uses ↔
      ∃ u ∈ uses, i ∈ u.wholeImports ∨ u.import? s package className = some i := by
  constructor
  · rintro (h | h)
    · obtain ⟨u, hu, hwhole | ⟨-, hi⟩⟩ := mem_runtimeImports_iff.1 h
      · exact ⟨u, hu, .inl hwhole⟩
      · exact ⟨u, hu, .inr hi⟩
    · obtain ⟨-, u, hu, -, hi⟩ := mem_annotationImports_iff.1 h
      exact ⟨u, hu, .inr hi⟩
  · rintro ⟨u, hu, h⟩
    by_cases hruntime : i ∈ runtimeImports s package className uses
    · exact .inl hruntime
    · have hlater : ¬ (i ∈ u.wholeImports ∨ u.atRunTime = true ∧ u.import? s package className = some i) :=
        fun hu' => hruntime (mem_runtimeImports_iff.2 ⟨u, hu, hu'⟩)
      have hi : u.import? s package className = some i := h.resolve_left fun hwhole => hlater (.inl hwhole)
      have hannotation : u.atRunTime = false := by
        cases hu' : u.atRunTime with
        | false => rfl
        | true => exact absurd (.inr ⟨hu', hi⟩) hlater
      exact .inr (mem_annotationImports_iff.2 ⟨hruntime, u, hu, hannotation, hi⟩)

theorem Use.import?_eq_some_iff {u : Use} :
    u.import? s package className = some i ↔ s.importFor? u.reference package = some i ∧ i.name ≠ some className := by
  simp [Use.import?, Option.filter_eq_some_iff]

theorem Reference.isGenerated_iff {r : Reference} : r.isGenerated = true ↔ r.origin = .generated := beq_iff_eq

theorem Scope.importFor?_of_imported (s : Scope) (package : String) {r : Reference} {module : String}
    (h : r.origin = .imported module) :
    s.importFor? r package = some { module, name := some r.target } := by
  unfold importFor?
  rw [h]

theorem Scope.importFor?_of_generated (s : Scope) (package : String) {r : Reference} (h : r.origin = .generated) :
    s.importFor? r package =
      some { module := Import.path package (s.packageOf r.schemaName) (Naming.moduleName r.target)
             name := some r.target } := by
  unfold importFor?
  rw [h]

/-- The import for a reference brings in the target of the reference. -/
theorem Scope.name_of_importFor? {r : Reference} (h : s.importFor? r package = some i) : i.name = some r.target := by
  unfold importFor? at h
  split at h <;> cases h <;> rfl

end

/-! ### Modules of a document -/

namespace Scope

variable {s : Scope} {document : Document} {m : Module}

/-- The imports of a module for a definition follow from its references; resolvers have a module of their own. -/
theorem Yields.eq_assemble {d : Definition} {modules : List Module} (h : s.Yields document d modules) :
    ∀ m ∈ modules, m = .assemble s m.package m.className m.description m.body ∧
      ∀ entries, m.body ≠ .resolvers entries := by
  intro m hm
  cases h with
  | operations hroot hapis hsingle hwhole =>
    rcases List.mem_append.1 hm with hm | hm
    · obtain ⟨field, -, hfield⟩ := exists_of_mem_mapM hsingle hm
      obtain ⟨operation, -, rfl⟩ := operationModule_eq_ok_iff.1 hfield
      exact ⟨rfl, nofun⟩
    · obtain ⟨operations, -, rfl⟩ := rootModule_eq_ok_iff.1 (List.mem_singleton.1 hm ▸ hwhole)
      exact ⟨rfl, nofun⟩
  | withoutApis => cases hm
  | object hroot h =>
    obtain ⟨fields, -, bases, -, rfl⟩ := objectModule_eq_ok_iff.1 (List.mem_singleton.1 hm ▸ h)
    exact ⟨rfl, nofun⟩
  | interface h =>
    obtain ⟨fields, -, bases, -, rfl⟩ := interfaceModule_eq_ok_iff.1 (List.mem_singleton.1 hm ▸ h)
    exact ⟨rfl, nofun⟩
  | enumeration =>
    rw [List.mem_singleton.1 hm]
    exact ⟨rfl, nofun⟩
  | input h =>
    obtain ⟨fields, -, rfl⟩ := inputModule_eq_ok_iff.1 (List.mem_singleton.1 hm ▸ h)
    exact ⟨rfl, nofun⟩
  | union h =>
    obtain ⟨targets, -, rfl⟩ := unionModule_eq_ok_iff.1 (List.mem_singleton.1 hm ▸ h)
    exact ⟨rfl, nofun⟩

theorem eq_assemble_of_mem_mapDocument (hm : m ∈ (s.mapDocument document).modules) :
    m = .assemble s m.package m.className m.description m.body := by
  rcases origin_of_mem_mapDocument hm with ⟨d, -, modules, hmodules, hm⟩ | hresolvers
  · exact ((yields_of_definitionModules hmodules).eq_assemble m hm).1
  · obtain ⟨entries, -, rfl⟩ := resolverModule_eq_ok_iff.1 hresolvers
    rfl

/-- The imports that a use in a module needs. -/
def needs (s : Scope) (m : Module) (u : Use) : List Import :=
  u.wholeImports ++ (u.import? s m.package m.className).toList

theorem mem_needs_iff {u : Use} {i : Import} :
    i ∈ s.needs m u ↔ i ∈ u.wholeImports ∨ u.import? s m.package m.className = some i := by
  simp [needs]

section

variable (hassembled : m = .assemble s m.package m.className m.description m.body)

include hassembled

theorem mem_imports_append_iff_of_eq_assemble {i : Import} :
    i ∈ m.imports ++ m.typeImports ↔ ∃ u ∈ m.body.uses, i ∈ s.needs m u := by
  have himports : m.imports = runtimeImports s m.package m.className m.body.uses := congrArg Module.imports hassembled
  have htypeImports : m.typeImports = annotationImports s m.package m.className m.body.uses :=
    congrArg Module.typeImports hassembled
  simp only [List.mem_append, himports, htypeImports, mem_runtimeImports_or_iff, mem_needs_iff]

theorem mem_imports_iff_of_eq_assemble {u : Use} (hu : u ∈ m.body.uses) {i : Import}
    (hi : s.importFor? u.reference m.package = some i) :
    i ∈ m.imports ++ m.typeImports ↔ u.reference.target ≠ m.className := by
  have hname := name_of_importFor? hi
  rw [mem_imports_append_iff_of_eq_assemble hassembled]
  constructor
  · rintro ⟨u', -, h⟩ he
    rcases mem_needs_iff.1 h with h | h
    · obtain ⟨module, -, rfl⟩ := List.mem_map.1 h
      cases hname
    · exact (Use.import?_eq_some_iff.1 h).2 (he ▸ hname)
  · intro hne
    refine ⟨u, hu, mem_needs_iff.2 (.inr (Use.import?_eq_some_iff.2 ⟨hi, fun he => hne ?_⟩))⟩
    rw [hname] at he
    exact Option.some.inj he

end

/-- A module has the imports that its uses need. -/
theorem mem_imports_append_iff (hm : m ∈ (s.mapDocument document).modules) {i : Import} :
    i ∈ m.imports ++ m.typeImports ↔ ∃ u ∈ m.body.uses, i ∈ s.needs m u :=
  mem_imports_append_iff_of_eq_assemble (eq_assemble_of_mem_mapDocument hm)

/-- The import for a reference of a module is made unless its target has the name of the class of the module. -/
theorem mem_imports_iff_of_importFor? (hm : m ∈ (s.mapDocument document).modules) {u : Use} (hu : u ∈ m.body.uses)
    {i : Import} (hi : s.importFor? u.reference m.package = some i) :
    i ∈ m.imports ++ m.typeImports ↔ u.reference.target ≠ m.className :=
  mem_imports_iff_of_eq_assemble (eq_assemble_of_mem_mapDocument hm) hu hi

/-! ### References to the class of the module -/

/-- Does the reference denote the class that the module holds, a class of the run by this name in this place? -/
structure Denotes (s : Scope) (r : Reference) (m : Module) : Prop where
  isGenerated : r.isGenerated = true
  className_eq : r.target = m.className
  package_eq : s.packageOf r.schemaName = m.package
  name_eq : Naming.moduleName r.target = m.name

instance (s : Scope) (r : Reference) (m : Module) : Decidable (s.Denotes r m) :=
  decidable_of_iff (r.isGenerated = true ∧ r.target = m.className ∧ s.packageOf r.schemaName = m.package ∧
      Naming.moduleName r.target = m.name)
    ⟨fun ⟨hg, hc, hp, hn⟩ => ⟨hg, hc, hp, hn⟩, fun ⟨hg, hc, hp, hn⟩ => ⟨hg, hc, hp, hn⟩⟩

/-- Does the module import all that it uses, its own class excepted? -/
def ImportsUses (s : Scope) (m : Module) : Prop :=
  ∀ u ∈ m.body.uses, ∀ i ∈ s.importFor? u.reference m.package,
    i ∈ m.imports ++ m.typeImports ∨ s.Denotes u.reference m

instance (s : Scope) (m : Module) : Decidable (s.ImportsUses m) :=
  inferInstanceAs (Decidable (∀ u ∈ m.body.uses, ∀ i ∈ s.importFor? u.reference m.package,
    i ∈ m.imports ++ m.typeImports ∨ s.Denotes u.reference m))

/-- A name that is taken for the class of a module: it means something else that is called like this class. -/
inductive TakenForClass (o : Options) (documents : List Document) (m : Module) (n : String) : Prop
  /-- The name has a custom type whose last part is the name of the class. -/
  | customType {target module : String} (hbuiltin : builtinScalars.lookup n = none)
      (htarget : o.customTypes.find? n = some target) (hsplit : Target.split? target = some (module, m.className)) :
      TakenForClass o documents m n
  /-- The name means a class of the run in another package. -/
  | otherPackage (hgenerates : (ofRun o documents).Generates n) (hclass : (ofRun o documents).className n = m.className)
      (hpackage : (ofRun o documents).packageOf n ≠ m.package) : TakenForClass o documents m n

section

variable {o : Options} {documents : List Document} {n : String} {context : Option String} {r : Reference}

/-- A target of a run is a custom type, or that of a scalar, which is a name of the output language. -/
theorem find?_ofRun_eq_some {target : String} (h : (ofRun o documents).targets.find? n = some target) :
    o.customTypes.find? n = some target ∨ target = Targets.scalarTarget := by
  rw [find?_ofRun] at h
  rcases Option.or_eq_some_iff.1 h with h | ⟨-, h⟩
  · exact .inl h
  · split at h <;> cases h
    exact .inr rfl

/-- A name that is imported has a custom type, and this is a dotted name. -/
theorem exists_customType_of_imported (h : (ofRun o documents).resolveName n context = .ok r) {module : String}
    (hr : r.origin = .imported module) :
    builtinScalars.lookup n = none ∧ ∃ target, o.customTypes.find? n = some target ∧
      Target.split? target = some (module, r.target) := by
  cases resolveName_eq_ok_iff.1 h with
  | builtin | expression | generated => cases hr
  | imported hbuiltin htarget hsplit =>
    cases hr
    refine ⟨hbuiltin, _, (find?_ofRun_eq_some htarget).resolve_right ?_, hsplit⟩
    rintro rfl
    have hscalar : Target.split? Targets.scalarTarget = none := by decide +kernel
    cases hsplit.symm.trans hscalar

/-- A custom type that is a dotted name is imported. -/
theorem resolveName_of_customType (hbuiltin : builtinScalars.lookup n = none) {target module imported : String}
    (htarget : o.customTypes.find? n = some target) (hsplit : Target.split? target = some (module, imported)) :
    (ofRun o documents).resolveName n context = .ok (.plain n imported (.imported module)) := by
  have hfind : (ofRun o documents).targets.find? n = some target := by rw [find?_ofRun, htarget, Option.some_or]
  exact resolveName_eq_ok_iff.2 (.imported hbuiltin hfind hsplit)

/-- A name is taken for the class of a module if its reference is called like this class and comes from elsewhere. -/
theorem takenForClass_iff {m : Module} (h : (ofRun o documents).Resolves r) :
    TakenForClass o documents m r.schemaName ↔ r.target = m.className ∧
      ((∃ module, r.origin = .imported module) ∨
        r.isGenerated = true ∧ (ofRun o documents).packageOf r.schemaName ≠ m.package) := by
  obtain ⟨context, hresolve⟩ := h
  constructor
  · intro htaken
    cases htaken with
    | @customType target module hbuiltin htarget hsplit =>
      rw [resolveName_of_customType hbuiltin htarget hsplit] at hresolve
      have hbare := Except.ok.inj hresolve
      have horigin : r.origin = .imported module := congrArg Reference.origin hbare.symm
      exact ⟨congrArg Reference.target hbare.symm, .inl ⟨module, horigin⟩⟩
    | otherPackage hgenerates hclass hpackage =>
      rw [hgenerates.resolveName] at hresolve
      have hbare := Except.ok.inj hresolve
      have horigin : r.origin = .generated := congrArg Reference.origin hbare.symm
      exact ⟨(congrArg Reference.target hbare.symm).trans hclass,
        .inr ⟨Reference.isGenerated_iff.2 horigin, hpackage⟩⟩
  · rintro ⟨hclass, ⟨module, horigin⟩ | ⟨hgenerated, hpackage⟩⟩
    · obtain ⟨hbuiltin, target, htarget, hsplit⟩ := exists_customType_of_imported hresolve horigin
      have hsplit : Target.split? target = some (module, m.className) := hclass ▸ hsplit
      exact .customType hbuiltin htarget hsplit
    · have hresolves : (ofRun o documents).Resolves r := ⟨context, hresolve⟩
      have hname : (ofRun o documents).className r.schemaName = m.className :=
        (hresolves.target_eq hgenerated).symm.trans hclass
      exact .otherPackage (hresolves.generates hgenerated) hname hpackage

end

/-- A module of a run imports all that it uses, its own class excepted, exactly if it uses no name that is taken for
this class. -/
theorem importsUses_iff {o : Options} {documents : List Document} {m : Module}
    (hm : m ∈ (ofRun o documents).modules documents) :
    (ofRun o documents).ImportsUses m ↔ ∀ u ∈ m.body.uses, ¬ TakenForClass o documents m u.reference.schemaName := by
  have hresolves : ∀ u ∈ m.body.uses, (ofRun o documents).Resolves u.reference :=
    fun u hu => resolves_of_mem_modules hm hu
  obtain ⟨document, -, hm⟩ := List.mem_flatMap.1 hm
  constructor
  · intro himports u hu htaken
    obtain ⟨hclass, ⟨module, horigin⟩ | ⟨hgenerated, hpackage⟩⟩ := (takenForClass_iff (hresolves u hu)).1 htaken
    · have hi := (ofRun o documents).importFor?_of_imported m.package horigin
      rcases himports u hu _ hi with h | h
      · exact (mem_imports_iff_of_importFor? hm hu hi).1 h hclass
      · cases horigin.symm.trans (Reference.isGenerated_iff.1 h.isGenerated)
    · have hi := (ofRun o documents).importFor?_of_generated m.package (Reference.isGenerated_iff.1 hgenerated)
      rcases himports u hu _ hi with h | h
      · exact (mem_imports_iff_of_importFor? hm hu hi).1 h hclass
      · exact hpackage h.package_eq
  · intro hfree u hu i hi
    by_cases hclass : u.reference.target = m.className
    · -- the import is left out, so the reference must denote the class of the module
      have hother := fun h => hfree u hu ((takenForClass_iff (hresolves u hu)).2 ⟨hclass, h⟩)
      refine .inr ?_
      cases horigin : u.reference.origin with
      | builtin | expression modules =>
        unfold importFor? at hi
        rw [horigin] at hi
        cases hi
      | imported module => exact absurd (.inl ⟨module, horigin⟩) hother
      | generated =>
        have hgenerated : u.reference.isGenerated = true := Reference.isGenerated_iff.2 horigin
        have hpackage : (ofRun o documents).packageOf u.reference.schemaName = m.package := by
          by_contra hpackage
          exact hother (.inr ⟨hgenerated, hpackage⟩)
        exact ⟨hgenerated, hclass, hpackage, congrArg Naming.moduleName hclass⟩
    · exact .inl ((mem_imports_iff_of_importFor? hm hu hi).2 hclass)

/-- A type that refers to itself and to a scalar with a custom type. -/
theorem importsUses_person :
    let o : Options := { Options.unset with customTypes := Table.ofList [("Date", "datetime.date")] }
    let documents : List Document := [[.scalar "Date", .object ⟨"Person", none, [],
      [⟨"parent", none, [], .named "Person" false⟩, ⟨"born", none, [], .named "Date" false⟩]⟩]]
    ∃ m ∈ (ofRun o documents).modules documents, m.className = "Person" ∧ (ofRun o documents).ImportsUses m ∧
      ∀ u ∈ m.body.uses, ¬ TakenForClass o documents m u.reference.schemaName := by
  intro o documents
  have himports : ∃ m ∈ (ofRun o documents).modules documents, m.className = "Person" ∧
      (ofRun o documents).ImportsUses m := by
    decide +kernel
  obtain ⟨m, hm, hclass, himports⟩ := himports
  exact ⟨m, hm, hclass, himports, (importsUses_iff hm).1 himports⟩

/-- Modules may leave out imports that they need: of a custom type that is called like the class, and of a model that
is called like the class of an operation which returns it. -/
theorem importsUses_omitted :
    (let o : Options := { Options.unset with customTypes := Table.ofList [("X", "external.Payload")] }
      let documents : List Document := [[.scalar "X", .object ⟨"Payload", none, [],
        [⟨"x", none, [], .named "X" false⟩]⟩]]
      ∃ m ∈ (ofRun o documents).modules documents, ¬ (ofRun o documents).ImportsUses m) ∧
    (let o : Options := { Options.unset with modelPackage := some "models", apiPackage := some "operations" }
      let documents : List Document := [[.object ⟨"UserQuery", none, [], [⟨"id", none, [], .named "ID" false⟩]⟩,
        .object ⟨"Query", none, [], [⟨"user", none, [], .named "UserQuery" false⟩]⟩]]
      ∃ m ∈ (ofRun o documents).modules documents, ¬ (ofRun o documents).ImportsUses m) := by
  decide +kernel

end Scope

end SchemaBindings
