import SchemaBindings.Proofs.Hierarchy
import SchemaBindings.Proofs.ImportClosure
import SchemaBindings.Proofs.Inheritance
import SchemaBindings.Proofs.ModuleImports

/-!
# Circles of imports

Modules that import each other at run time, in a circle, cannot be loaded. A module imports a class of the run at run
time only if its own class extends it; fields, arguments, results and members of unions add nothing to this, however
they refer to each other. The types themselves never extend each other in a circle. But what is generated for them
may: two types may have one class, where a prefix or a suffix turns the one into the name of an operation root, and
two classes may have one module. All circles of imports go through what is shared in this way (`import_circles_iff`).
-/

namespace SchemaBindings

open Schema Relation

/-! ### Circles of a relation -/

section

variable {α β : Type} {r : α → α → Prop}

/-- The way back from its end keeps each step of a path on a circle. -/
private theorem transGen_on_circle {a c : α} (h : TransGen r a c) (hback : ReflTransGen r c a) :
    TransGen (fun x y => r x y ∧ ReflTransGen r y x) a c := by
  induction h using TransGen.head_induction_on with
  | single hac => exact .single ⟨hac, hback⟩
  | @head a b hab hbc ih => exact .head ⟨hab, hbc.to_reflTransGen.trans hback⟩ (ih (hback.tail hab))

/-- A relation whose steps are carried along `f` from one without circles has circles only through values that `f`
takes twice. -/
private theorem exists_shared_of_circle {q : β → β → Prop} (hq : ∀ n, ¬ TransGen q n n) {names : List β} {f : β → α}
    (hstep : ∀ x y, r x y → ReflTransGen r y x → ∃ n ∈ names, ∃ k ∈ names, f n = x ∧ f k = y ∧ q n k) {c : α}
    (h : TransGen r c c) : ∃ x, (∃ n ∈ names, ∃ k ∈ names, n ≠ k ∧ f n = x ∧ f k = x) ∧ TransGen r x x := by
  by_contra hnone
  have hone {x : α} (hx : TransGen r x x) {n k : β} (hn : n ∈ names) (hk : k ∈ names) (hnx : f n = x)
      (hkx : f k = x) : n = k := by
    by_contra hne
    exact hnone ⟨x, ⟨n, hn, k, hk, hne, hnx, hkx⟩, hx⟩
  -- each step on the circle is one from the only name of its start
  have hnext {x y : α} (hxy : r x y ∧ ReflTransGen r y x) {n : β} (hn : n ∈ names) (hnx : f n = x) :
      ∃ k ∈ names, f k = y ∧ q n k := by
    obtain ⟨n', hn', k, hk, hn'x, hky, hnk⟩ := hstep x y hxy.1 hxy.2
    cases hone (TransGen.head' hxy.1 hxy.2) hn hn' hnx hn'x
    exact ⟨k, hk, hky, hnk⟩
  have hpath {x : α} (hx : TransGen (fun x y => r x y ∧ ReflTransGen r y x) x c) {n : β} (hn : n ∈ names)
      (hnx : f n = x) : ∃ k ∈ names, f k = c ∧ TransGen q n k := by
    induction hx using TransGen.head_induction_on generalizing n with
    | single hxc =>
      obtain ⟨k, hk, hkc, hnk⟩ := hnext hxc hn hnx
      exact ⟨k, hk, hkc, .single hnk⟩
    | head hxy _ ih =>
      obtain ⟨k, hk, hky, hnk⟩ := hnext hxy hn hnx
      obtain ⟨k', hk', hkc, hpath⟩ := ih hk hky
      exact ⟨k', hk', hkc, .head hnk hpath⟩
  obtain ⟨d, hcd, hdc⟩ := TransGen.head'_iff.1 h
  obtain ⟨n, hn, -, -, hnc, -⟩ := hstep c d hcd hdc
  obtain ⟨k, hk, hkc, hcircle⟩ := hpath (transGen_on_circle h .refl) hn hnc
  cases hone h hn hk hnc hkc
  exact hq n hcircle

end

/-! ### Uses as bases -/

private theorem isBase_of_mem_argumentUses {arguments : List Argument} {u : Use} (hu : u ∈ argumentUses arguments) :
    u.isBase = false := by
  obtain ⟨a, -, rfl⟩ := List.mem_map.1 hu
  rfl

private theorem isBase_of_mem_fieldUses {fields : List Field} {u : Use} (hu : u ∈ fieldUses fields) :
    u.isBase = false := by
  obtain ⟨f, -, hu⟩ := List.mem_flatMap.1 hu
  rcases List.mem_cons.1 hu with rfl | hu
  · rfl
  · exact isBase_of_mem_argumentUses hu

private theorem isBase_of_mem_operationUses {operations : List Operation} {u : Use}
    (hu : u ∈ operationUses operations) : u.isBase = false := by
  obtain ⟨p, -, hu⟩ := List.mem_flatMap.1 hu
  rcases List.mem_cons.1 hu with rfl | hu
  · rfl
  · exact isBase_of_mem_argumentUses hu

/-- Only what a class extends is used as a base: no field, argument or result is, and no member of a union. -/
theorem mem_bases_of_isBase {m : Module} {u : Use} (hu : u ∈ m.body.uses) (hbase : u.isBase = true) :
    u.reference ∈ m.bases := by
  unfold Module.bases
  generalize m.body = body at hu ⊢
  cases body with
  | record kind fields bases =>
    rcases List.mem_append.1 hu with hu | hu
    · cases hbase.symm.trans (isBase_of_mem_fieldUses hu)
    · obtain ⟨r, hr, rfl⟩ := List.mem_map.1 hu
      exact hr
  | enumeration values | union members => cases hu
  | operations root whole methods => cases hbase.symm.trans (isBase_of_mem_operationUses hu)
  | resolvers entries =>
    obtain ⟨e, -, hu⟩ := List.mem_flatMap.1 hu
    rcases List.mem_cons.1 hu with rfl | hu
    · cases hbase
    · cases hbase.symm.trans (isBase_of_mem_fieldUses hu)

theorem mem_uses_of_mem_bases {m : Module} {r : Reference} (hr : r ∈ m.bases) : ⟨r, true⟩ ∈ m.body.uses := by
  unfold Module.bases at hr
  split at hr
  · next hbody =>
    rw [hbody]
    exact List.mem_append_right _ (List.mem_map_of_mem hr)
  · cases hr

namespace Scope

variable {s : Scope} {documents : List Document}

/-! ### Imports at run time -/

/-- The use alone makes the module import the class `c` of the run at run time. -/
def ImportsFor (s : Scope) (m : Module) (u : Use) (c : String) : Prop :=
  u ∈ m.body.uses ∧ u.reference.isGenerated = true ∧
    ∃ i ∈ m.imports, i.name = some c ∧ i ∈ runtimeImports s m.package m.className [u]

/-- A module with the class `c` imports the class `c'` of the run at run time. -/
def ImportsAtRunTime (s : Scope) (modules : List Module) (c c' : String) : Prop :=
  ∃ m ∈ modules, m.className = c ∧ ∃ u, s.ImportsFor m u c'

/-- A module imports another at run time for one of its classes; each is given by its package and its name. -/
def ImportsModule (s : Scope) (modules : List Module) (p q : String × String) : Prop :=
  ∃ m ∈ modules, (m.package, m.name) = p ∧ ∃ u c, s.ImportsFor m u c ∧
    (s.packageOf u.reference.schemaName, Naming.moduleName c) = q

/-- The module in which a type has its class, by its package and its name. -/
def modelPlace (s : Scope) (n : String) : String × String :=
  (s.targets.modelPackage, Naming.moduleName (s.className n))

/-- Only bases are imported at run time. -/
theorem ImportsFor.isBase {m : Module} {u : Use} {c : String} (h : s.ImportsFor m u c) :
    u.isBase = true ∧ u.reference.target = c := by
  obtain ⟨-, hgenerated, i, -, hname, hi⟩ := h
  have horigin := Reference.isGenerated_iff.1 hgenerated
  obtain ⟨u', hu', hneeded⟩ := mem_runtimeImports_iff.1 hi
  obtain rfl := List.mem_singleton.1 hu'
  rcases hneeded with hwhole | ⟨hruntime, hi⟩
  · simp [Use.wholeImports, Reference.mentionedModules, horigin] at hwhole
  · have htarget := name_of_importFor? (Use.import?_eq_some_iff.1 hi).1
    refine ⟨?_, Option.some.inj (htarget.symm.trans hname)⟩
    simpa [Use.atRunTime, Reference.importModule?, horigin] using hruntime

/-- A module whose class extends something is the model of a type. -/
private theorem exists_models_of_mem_bases {m : Module} (hm : m ∈ s.modules documents) {r : Reference}
    (hr : r ∈ m.bases) : ∃ n, s.Models documents n m := by
  obtain ⟨document, hdocument, hm⟩ := List.mem_flatMap.1 hm
  rcases origin_of_mem_mapDocument hm with ⟨d, hd, modules, hmodules, hm⟩ | hresolvers
  · have hmodels {n : String} (hn : d.modelName? = some n) : s.Models documents n m :=
      ⟨document, hdocument, d, hd, hn, mem_stepModules_iff.2 ⟨modules, hmodules, hm⟩⟩
    cases yields_of_definitionModules hmodules with
    | operations hroot hapis hsingle hwhole =>
      exfalso
      rcases List.mem_append.1 hm with hm | hm
      · obtain ⟨field, -, hfield⟩ := exists_of_mem_mapM hsingle hm
        obtain ⟨operation, -, rfl⟩ := operationModule_eq_ok_iff.1 hfield
        cases hr
      · obtain ⟨operations, -, rfl⟩ := rootModule_eq_ok_iff.1 (List.mem_singleton.1 hm ▸ hwhole)
        cases hr
    | withoutApis => cases hm
    | @object type m' hroot h => exact ⟨type.name, hmodels (by simp [Definition.modelName?, hroot])⟩
    | interface => exact ⟨_, hmodels rfl⟩
    | enumeration => exact ⟨_, hmodels rfl⟩
    | input => exact ⟨_, hmodels rfl⟩
    | union => exact ⟨_, hmodels rfl⟩
  · obtain ⟨entries, -, rfl⟩ := resolverModule_eq_ok_iff.1 hresolvers
    cases hr

private theorem place_of_models {n : String} {m : Module} (h : s.Models documents n m) :
    m.package = s.targets.modelPackage ∧ m.className = s.className n := by
  obtain ⟨document, -, d, -, hn, hm⟩ := h
  obtain ⟨modules, hstep, hm⟩ := mem_stepModules_iff.1 hm
  have hplace : m.place ∈ s.definitionPlaces d :=
    (yields_of_definitionModules hstep).map_place ▸ List.mem_map_of_mem hm
  rcases mem_definitionPlaces.1 hplace with ⟨n', hn', he⟩ | ⟨-, c, hc, -⟩
  · cases hn.symm.trans hn'
    exact ⟨congrArg ClassPlace.package he, congrArg ClassPlace.className he⟩
  · obtain ⟨type, rfl, hroot, -⟩ := Definition.exists_root_of_mem_operationClasses hc
    simp [Definition.modelName?, hroot] at hn

private theorem mem_modelNames_of_models {n : String} {m : Module} (h : s.Models documents n m) :
    n ∈ modelNames documents.flatten := by
  obtain ⟨document, hdocument, d, hd, hname, -⟩ := h
  exact List.mem_filterMap.2 ⟨d, List.mem_flatten.2 ⟨document, hdocument, hd⟩, hname⟩

private theorem mem_modules_of_models (hmaps : s.MapsAll documents) {n : String} {m : Module}
    (h : s.Models documents n m) : m ∈ s.modules documents := by
  obtain ⟨document, hdocument, d, hd, -, hm⟩ := h
  refine List.mem_flatMap.2 ⟨document, hdocument, ?_⟩
  obtain ⟨resolvers, -, hmodules⟩ := exists_resolvers_mapDocument (hmaps document hdocument)
  rw [hmodules]
  exact List.mem_append_left _ (List.mem_flatMap.2 ⟨d, hd, hm⟩)

/-- A module that imports a class of the run at run time is the model of a type, and the type keeps another one with
this class. -/
theorem ImportsFor.keepsClass {m : Module} (hm : m ∈ s.modules documents) {u : Use} {c : String}
    (h : s.ImportsFor m u c) :
    ∃ n, s.Models documents n m ∧ s.KeepsClass documents n u.reference.schemaName ∧
      s.className u.reference.schemaName = c := by
  obtain ⟨hbase, htarget⟩ := h.isBase
  have hr := mem_bases_of_isBase h.1 hbase
  obtain ⟨n, hn⟩ := exists_models_of_mem_bases hm hr
  obtain ⟨hkeeps, hresolve⟩ := keeps_of_mem_bases hn hr
  have hgenerates := generates_of_resolveName hresolve h.2.1
  exact ⟨n, hn, ⟨hkeeps, hgenerates⟩, ((resolves_of_resolveName hresolve).target_eq h.2.1).symm.trans htarget⟩

section

variable (himplements : ImplementsInterfaces documents)

include himplements

private theorem mem_modelNames_of_keepsClass {n k : String} (h : s.KeepsClass documents n k) :
    k ∈ modelNames documents.flatten := by
  obtain ⟨⟨document, hdocument, d, hd, -, hk⟩, -⟩ := h
  exact mem_modelNames_of_listed himplements hdocument hd (mem_minimalNames.1 hk).1

/-- Classes import each other as types keep each other. -/
private theorem exists_kept_of_importsAtRunTime {x y : String} (h : s.ImportsAtRunTime (s.modules documents) x y) :
    ∃ n ∈ modelNames documents.flatten, ∃ k ∈ modelNames documents.flatten,
      s.className n = x ∧ s.className k = y ∧ s.KeepsClass documents n k := by
  obtain ⟨m, hm, rfl, u, hu⟩ := h
  obtain ⟨n, hn, hkeeps, hclass⟩ := hu.keepsClass hm
  exact ⟨n, mem_modelNames_of_models hn, _, mem_modelNames_of_keepsClass himplements hkeeps,
    (place_of_models hn).2.symm, hclass, hkeeps⟩

/-- So do modules, if there is a way back. -/
private theorem exists_kept_of_importsModule {x y : String × String}
    (h : s.ImportsModule (s.modules documents) x y)
    (hback : ReflTransGen (s.ImportsModule (s.modules documents)) y x) :
    ∃ n ∈ modelNames documents.flatten, ∃ k ∈ modelNames documents.flatten,
      s.modelPlace n = x ∧ s.modelPlace k = y ∧ s.KeepsClass documents n k := by
  obtain ⟨z, ⟨m', hm', hy, u', c', hu', -⟩, -⟩ := TransGen.head'_iff.1 (TransGen.tail' hback h)
  obtain ⟨m, hm, rfl, u, c, hu, rfl⟩ := h
  obtain ⟨n, hn, hkeeps, rfl⟩ := hu.keepsClass hm
  refine ⟨n, mem_modelNames_of_models hn, _, mem_modelNames_of_keepsClass himplements hkeeps, ?_, ?_, hkeeps⟩
  · rw [modelPlace, Module.name, (place_of_models hn).1, (place_of_models hn).2]
  · -- the module that is imported imports others, so it holds a model itself
    obtain ⟨n', hn', -⟩ := hu'.keepsClass hm'
    rw [modelPlace, ← (place_of_models hn').1, (Prod.mk.inj hy).1]

end

/-- In a run that is mapped without failure, the model of a type imports the class of each type that it keeps, unless
it is its own. -/
theorem exists_importsFor_of_keepsClass (hmaps : s.MapsAll documents) {n k : String}
    (h : s.KeepsClass documents n k) (hne : s.className n ≠ s.className k) :
    ∃ m ∈ s.modules documents, s.Models documents n m ∧
      ∃ u, u.reference.schemaName = k ∧ s.ImportsFor m u (s.className k) := by
  obtain ⟨m, r, hn, hr, rfl, hresolve⟩ := exists_base_of_keeps hmaps h.1
  have hclass := (place_of_models hn).2
  have hgenerated : r.isGenerated = true := by
    rw [h.2.resolveName] at hresolve
    rw [← Except.ok.inj hresolve]
    rfl
  have htarget := (resolves_of_resolveName hresolve).target_eq hgenerated
  obtain ⟨i, hi⟩ : ∃ i, s.importFor? r m.package = some i :=
    ⟨_, s.importFor?_of_generated m.package (Reference.isGenerated_iff.1 hgenerated)⟩
  have hname : i.name = some (s.className r.schemaName) := (name_of_importFor? hi).trans (congrArg some htarget)
  have hneeded : (⟨r, true⟩ : Use).import? s m.package m.className = some i :=
    Use.import?_eq_some_iff.2 ⟨hi, by simpa [hname, hclass] using hne.symm⟩
  have hu := mem_uses_of_mem_bases hr
  have hm := mem_modules_of_models hmaps hn
  obtain ⟨document, -, hm'⟩ := List.mem_flatMap.1 hm
  have himports : m.imports = runtimeImports s m.package m.className m.body.uses :=
    congrArg Module.imports (eq_assemble_of_mem_mapDocument hm')
  refine ⟨m, hm, hn, ⟨r, true⟩, rfl, hu, hgenerated, i, ?_, hname, ?_⟩
  · rw [himports]
    exact mem_runtimeImports_iff.2 ⟨_, hu, .inr ⟨rfl, hneeded⟩⟩
  · exact mem_runtimeImports_iff.2 ⟨_, List.mem_singleton.2 rfl, .inr ⟨rfl, hneeded⟩⟩

theorem importsAtRunTime_of_keepsClass (hmaps : s.MapsAll documents) {n k : String} (h : s.KeepsClass documents n k)
    (hne : s.className n ≠ s.className k) :
    s.ImportsAtRunTime (s.modules documents) (s.className n) (s.className k) := by
  obtain ⟨m, hm, hn, u, -, hu⟩ := exists_importsFor_of_keepsClass hmaps h hne
  exact ⟨m, hm, (place_of_models hn).2, u, hu⟩

theorem importsModule_of_keepsClass (hmaps : s.MapsAll documents) {n k : String} (h : s.KeepsClass documents n k)
    (hne : s.className n ≠ s.className k) :
    s.ImportsModule (s.modules documents) (s.modelPlace n) (s.packageOf k, Naming.moduleName (s.className k)) := by
  obtain ⟨m, hm, hn, u, rfl, hu⟩ := exists_importsFor_of_keepsClass hmaps h hne
  refine ⟨m, hm, ?_, u, _, hu, rfl⟩
  rw [modelPlace, Module.name, (place_of_models hn).1, (place_of_models hn).2]

/-! ### Names of classes -/

/-- The name of an operation root has a model, and another type has a class of this name. -/
structure SharedRoot (s : Scope) (documents : List Document) (r : String) : Prop where
  isRoot : Naming.isRoot r = true
  mem : r ∈ modelNames documents.flatten
  exists_ne : ∃ n ∈ modelNames documents.flatten, n ≠ r ∧ s.className n = r

/-- Two types have their classes in the module. -/
def SharedModule (s : Scope) (documents : List Document) (p : String × String) : Prop :=
  ∃ n ∈ modelNames documents.flatten, ∃ k ∈ modelNames documents.flatten,
    n ≠ k ∧ s.modelPlace n = p ∧ s.modelPlace k = p

/-- Types with one class are one type, unless the class is that of a root and shared. -/
private theorem eq_of_className_eq {n k : String} (hn : n ∈ modelNames documents.flatten)
    (hk : k ∈ modelNames documents.flatten) (he : s.className n = s.className k) :
    n = k ∨ s.SharedRoot documents (s.className n) := by
  have hshared {r n : String} (hroot : Naming.isRoot r = true) (hr : r ∈ modelNames documents.flatten)
      (hn : n ∈ modelNames documents.flatten) (he : s.className n = r) (hne : n ≠ r) : s.SharedRoot documents r :=
    ⟨hroot, hr, n, hn, hne, he⟩
  by_cases hne : n = k
  · exact .inl hne
  · refine .inr ?_
    cases hrootn : Naming.isRoot n <;> cases hrootk : Naming.isRoot k
    · -- both classes have the prefix and the suffix of the run
      simp only [className, hrootn, hrootk, Bool.false_eq_true, if_false, Targets.modelClassName] at he
      exact absurd ((String.append_right_inj _).1 ((String.append_left_inj _).1 he)) hne
    · have hk' : s.className k = k := by simp [className, hrootk]
      rw [he, hk']
      exact hshared hrootk hk hn (he.trans hk') hne
    · have hn' : s.className n = n := by simp [className, hrootn]
      rw [hn']
      exact hshared hrootn hn hk (he.symm.trans hn') (Ne.symm hne)
    · have hn' : s.className n = n := by simp [className, hrootn]
      have hk' : s.className k = k := by simp [className, hrootk]
      exact absurd (hn'.symm.trans (he.trans hk')) hne

/-! ### Types extend each other in no circle -/

section

variable {o : Options} (hdistinct : (typeNames documents).Nodup) (himplements : ImplementsInterfaces documents)

include hdistinct himplements

/-- What a type keeps and what keeps others is an interface, and it implements these. -/
private theorem edge_of_keepsClass {a b c : String} (hab : (ofRun o documents).KeepsClass documents a b)
    (hbc : (ofRun o documents).KeepsClass documents b c) : (ofRun o documents).interfaces.Edge b c := by
  obtain ⟨⟨document, hdocument, d, hd, -, hb⟩, -⟩ := hab
  obtain ⟨⟨document', hdocument', d', hd', hname, hc⟩, -⟩ := hbc
  have hb := (mem_minimalNames.1 hb).1
  have hc := (mem_minimalNames.1 hc).1
  have hd := List.mem_flatten.2 ⟨document, hdocument, hd⟩
  have hd' := List.mem_flatten.2 ⟨document', hdocument', hd'⟩
  have hname := Definition.typeName?_of_modelName? hname
  have hinterface (hb : b ∈ d.implements) : (ofRun o documents).interfaces.Edge b c := by
    obtain ⟨type, htype, rfl⟩ := mem_interfaceNames.1 (himplements d hd b hb)
    cases definition_unique hdistinct htype hd' rfl hname
    exact edge_ofRun hdistinct htype hc
  match d, hb with
  | .object type, hb =>
    rcases List.mem_append.1 hb with hb | hb
    · exact hinterface hb
    · -- a union lists nothing
      obtain ⟨description, members, hunion, -⟩ := mem_unionsContaining.1 hb
      cases definition_unique hdistinct (List.mem_flatten.2 ⟨document, hdocument, hunion⟩) hd' rfl hname
      cases hc
  | .interface type, hb => exact hinterface hb

private theorem transGen_edge {a n : String} (h : TransGen ((ofRun o documents).KeepsClass documents) a n)
    {p : String} (hp : (ofRun o documents).KeepsClass documents p a) :
    TransGen (ofRun o documents).interfaces.Edge a n := by
  induction h using TransGen.head_induction_on generalizing p with
  | single han => exact .single (edge_of_keepsClass hdistinct himplements hp han)
  | head hab _ ih => exact .head (edge_of_keepsClass hdistinct himplements hp hab) (ih hab)

variable (hacyclic : ∀ n ∈ interfaceNames documents, n ∉ (ofRun o documents).ancestors n)

include hacyclic

theorem not_transGen_keepsClass (n : String) : ¬ TransGen ((ofRun o documents).KeepsClass documents) n n := by
  intro h
  obtain ⟨p, -, hp⟩ := TransGen.tail'_iff.1 h
  exact not_mem_ancestors_self hacyclic n (mem_ancestors_iff.2 (transGen_edge hdistinct himplements h hp))

/-! ### Circles of imports -/

/-- Imports of classes of the run at run time come from bases that a type keeps, and types keep each other in no
circle. So classes import each other in a circle exactly if they do so through a class that is shared with a root, and
modules exactly if they do so through one that two types share. -/
theorem import_circles_iff :
    (∀ m ∈ (ofRun o documents).modules documents, ∀ u c, (ofRun o documents).ImportsFor m u c →
      u.isBase = true ∧ ∃ n, (ofRun o documents).Models documents n m ∧
        (ofRun o documents).KeepsClass documents n u.reference.schemaName) ∧
    (∀ n, ¬ TransGen ((ofRun o documents).KeepsClass documents) n n) ∧
    ((∃ c, TransGen ((ofRun o documents).ImportsAtRunTime ((ofRun o documents).modules documents)) c c) ↔
      ∃ r, (ofRun o documents).SharedRoot documents r ∧
        TransGen ((ofRun o documents).ImportsAtRunTime ((ofRun o documents).modules documents)) r r) ∧
    ((∃ p, TransGen ((ofRun o documents).ImportsModule ((ofRun o documents).modules documents)) p p) ↔
      ∃ p, (ofRun o documents).SharedModule documents p ∧
        TransGen ((ofRun o documents).ImportsModule ((ofRun o documents).modules documents)) p p) := by
  have htypes := not_transGen_keepsClass hdistinct himplements hacyclic
  refine ⟨fun m hm u c h => ?_, htypes, ⟨fun ⟨c, hc⟩ => ?_, fun ⟨r, _, hr⟩ => ⟨r, hr⟩⟩,
    ⟨fun ⟨p, hp⟩ => ?_, fun ⟨p, _, hp⟩ => ⟨p, hp⟩⟩⟩
  · obtain ⟨n, hn, hkeeps, -⟩ := h.keepsClass hm
    exact ⟨h.isBase.1, n, hn, hkeeps⟩
  · obtain ⟨r, ⟨n, hn, k, hk, hne, hnr, hkr⟩, hr⟩ :=
      exists_shared_of_circle htypes (fun x y h _ => exists_kept_of_importsAtRunTime himplements h) hc
    exact ⟨r, hnr ▸ (eq_of_className_eq hn hk (hnr.trans hkr.symm)).resolve_left hne, hr⟩
  · exact exists_shared_of_circle htypes (fun x y h hback => exists_kept_of_importsModule himplements h hback) hp

end

/-- Files that are resources and nodes, with fields that lead from each type to all others. -/
def entryDocument : Document :=
  [.interface ⟨"Node", none, [], [⟨"entries", none, [], .list (.named "Entry" true) true⟩]⟩,
    .interface ⟨"Resource", none, ["Node"], [⟨"file", none, [], .named "File" false⟩]⟩,
    .object ⟨"File", none, ["Node", "Resource"], [⟨"parent", none, [], .named "Node" false⟩]⟩,
    .union "Entry" none ["File"]]

/-- Imports go from the resource to the node, and nowhere back, neither to its class nor to its module. -/
theorem no_import_circles_entry :
    let o : Options := { Options.unset with nameSuffix := some "Model" }
    let documents := [entryDocument]
    let s := ofRun o documents
    (typeNames documents).Nodup ∧ ImplementsInterfaces documents ∧ (∀ n ∈ interfaceNames documents, n ∉ s.ancestors n) ∧
      s.ImportsAtRunTime (s.modules documents) "ResourceModel" "NodeModel" ∧
      (¬ ∃ c, TransGen (s.ImportsAtRunTime (s.modules documents)) c c) ∧
      ¬ ∃ p, TransGen (s.ImportsModule (s.modules documents)) p p := by
  intro o documents s
  have hNode : s.ancestors "Node" = [] := by
    have hfind : s.interfaces.find? "Node" = some [] := by decide +kernel
    simp [ancestors, reachable, hfind, reachedFrom_nil]
  have hResource : s.ancestors "Resource" = ["Node"] := by
    have hfind : s.interfaces.find? "Resource" = some ["Node"] := by decide +kernel
    have hfind' : s.interfaces.find? "Node" = some [] := by decide +kernel
    simp [ancestors, reachable, hfind, hfind', reachedFrom_of_find?, reachedFrom_nil]
  have hnames : interfaceNames documents = ["Node", "Resource"] := rfl
  have hacyclic : ∀ n ∈ interfaceNames documents, n ∉ s.ancestors n := by simp [hnames, hNode, hResource]
  have hdistinct : (typeNames documents).Nodup := by decide
  have himplements : ImplementsInterfaces documents := by decide
  have hmaps : s.MapsAll documents := mapsAll_of_references (not_mem_ancestors_self hacyclic) (by decide +kernel)
  have hkeeps : s.KeepsClass documents "Resource" "Node" := by
    refine ⟨⟨entryDocument, List.mem_singleton.2 rfl, _, List.mem_cons_of_mem _ List.mem_cons_self, rfl, ?_⟩,
      by decide +kernel⟩
    refine mem_minimalNames.2 ⟨List.mem_singleton.2 rfl, fun k hk => ?_⟩
    rw [List.mem_singleton.1 hk, hNode]
    exact List.not_mem_nil
  obtain ⟨-, -, hclasses, hmodules⟩ := import_circles_iff (o := o) hdistinct himplements hacyclic
  refine ⟨hdistinct, himplements, hacyclic, importsAtRunTime_of_keepsClass hmaps hkeeps (by decide), ?_, ?_⟩
  · rw [hclasses]
    rintro ⟨r, hshared, -⟩
    have hnoroot : ∀ r ∈ modelNames documents.flatten, Naming.isRoot r = false := by decide
    exact absurd hshared.isRoot (by simp [hnoroot r hshared.mem])
  · rw [hmodules]
    rintro ⟨p, ⟨n, hn, k, hk, hne, hnp, hkp⟩, -⟩
    have hapart : ∀ n ∈ modelNames documents.flatten, ∀ k ∈ modelNames documents.flatten,
        s.modelPlace n = s.modelPlace k → n = k := by decide +kernel
    exact hne (hapart n hn k hk (hnp.trans hkp.symm))

/-- An interface that is called like a root, and another that a prefix turns into this name. -/
def prefixedDocument : Document :=
  [.interface ⟨"Query", none, [], [⟨"a", none, [], .named "Int" false⟩]⟩,
    .interface ⟨"A", none, ["Query"], [⟨"a", none, [], .named "Int" false⟩]⟩,
    .interface ⟨"uery", none, ["A", "Query"], [⟨"a", none, [], .named "Int" false⟩]⟩]

/-- Two interfaces have the class `Query` in the module `query`: the class `QA` extends that of the one, and that of the
other extends `QA`. -/
theorem import_circle_prefixed :
    let o : Options := { Options.unset with namePrefix := some "Q" }
    let documents := [prefixedDocument]
    let s := ofRun o documents
    (typeNames documents).Nodup ∧ ImplementsInterfaces documents ∧ (∀ n ∈ interfaceNames documents, n ∉ s.ancestors n) ∧
      s.MapsAll documents ∧ s.ImportsAtRunTime (s.modules documents) "QA" "Query" ∧
      s.ImportsAtRunTime (s.modules documents) "Query" "QA" ∧
      TransGen (s.ImportsAtRunTime (s.modules documents)) "QA" "QA" ∧
      TransGen (s.ImportsModule (s.modules documents)) ("", "qa") ("", "qa") := by
  intro o documents s
  have hfindQuery : s.interfaces.find? "Query" = some [] := by decide +kernel
  have hfindA : s.interfaces.find? "A" = some ["Query"] := by decide +kernel
  have hQuery : s.ancestors "Query" = [] := by simp [ancestors, reachable, hfindQuery, reachedFrom_nil]
  have hA : s.ancestors "A" = ["Query"] := by
    simp [ancestors, reachable, hfindA, hfindQuery, reachedFrom_of_find?, reachedFrom_nil]
  have huery : "uery" ∉ s.ancestors "uery" := by
    have hnone : ∀ d ∈ documents.flatten, "uery" ∉ d.implements := by decide
    intro h
    obtain ⟨d, hd, hmem⟩ := exists_implements_of_mem_ancestors h
    exact hnone d hd hmem
  have hnames : interfaceNames documents = ["Query", "A", "uery"] := rfl
  have hacyclic : ∀ n ∈ interfaceNames documents, n ∉ s.ancestors n := by simp [hnames, hQuery, hA, huery]
  have hmaps : s.MapsAll documents := mapsAll_of_references (not_mem_ancestors_self hacyclic) (by decide +kernel)
  have hkeepsQuery : s.KeepsClass documents "A" "Query" := by
    refine ⟨⟨prefixedDocument, List.mem_singleton.2 rfl, _, List.mem_cons_of_mem _ List.mem_cons_self, rfl, ?_⟩,
      by decide +kernel⟩
    exact mem_minimalNames.2 ⟨List.mem_singleton.2 rfl, by simp [Definition.listed, hQuery]⟩
  have hkeepsA : s.KeepsClass documents "uery" "A" := by
    refine ⟨⟨prefixedDocument, List.mem_singleton.2 rfl, _,
      List.mem_cons_of_mem _ (List.mem_cons_of_mem _ List.mem_cons_self), rfl, ?_⟩, by decide +kernel⟩
    exact mem_minimalNames.2 ⟨List.mem_cons_self, by simp [Definition.listed, hQuery, hA]⟩
  have hto := importsAtRunTime_of_keepsClass hmaps hkeepsQuery (by decide)
  have hback := importsAtRunTime_of_keepsClass hmaps hkeepsA (by decide)
  have hmoduleTo : s.ImportsModule (s.modules documents) ("", "qa") ("", "query") := by
    have h := importsModule_of_keepsClass hmaps hkeepsQuery (by decide)
    have hplaces : s.modelPlace "A" = ("", "qa") ∧
        (s.packageOf "Query", Naming.moduleName (s.className "Query")) = ("", "query") := by decide +kernel
    rwa [hplaces.1, hplaces.2] at h
  have hmoduleBack : s.ImportsModule (s.modules documents) ("", "query") ("", "qa") := by
    have h := importsModule_of_keepsClass hmaps hkeepsA (by decide)
    have hplaces : s.modelPlace "uery" = ("", "query") ∧
        (s.packageOf "A", Naming.moduleName (s.className "A")) = ("", "qa") := by decide +kernel
    rwa [hplaces.1, hplaces.2] at h
  exact ⟨by decide, by decide, hacyclic, hmaps, hto, hback, .tail (.single hto) hback,
    .tail (.single hmoduleTo) hmoduleBack⟩

end Scope

end SchemaBindings
