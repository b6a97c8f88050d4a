import Mathlib.Data.List.Sort
import SchemaBindings.Proofs.AscendingLists
import SchemaBindings.Proofs.Components
import SchemaBindings.Proofs.Mentions
import SchemaBindings.Proofs.ModuleImports

/-!
# Import lists

The two import lists of a module ascend strictly, have nothing in common, and hold exactly what the mentions of the
subject need: at run time the modules that expressions mention, the names from foreign modules and the classes that
are extended, and for annotations all other classes that are not imported already; each but for the name of the class
of the module. So they depend on which types are mentioned only, not on the order of fields and arguments, nor on how
often these come (`importsExactly_of_moduleOf`).
-/

namespace SchemaBindings

open Schema

namespace Scope

variable {s : Scope} {x y : Subject} {m m' : Module} {q : Mention} {r : Reference} {i j : Import}

/-! ### Needed imports -/

/-- Does the module of a subject need the import at run time? -/
inductive NeedsAtRunTime (s : Scope) (x : Subject) (m : Module) (i : Import) : Prop
  /-- A mentioned type is an expression, which mentions the module. -/
  | whole {q : Mention} {r : Reference} (hq : q ∈ s.mentions x) (hr : s.Reads q r)
      (hmodule : i.module ∈ r.mentionedModules) (hname : i.name = none) : NeedsAtRunTime s x m i
  /-- The class extends the mentioned type. -/
  | base {q : Mention} {r : Reference} (hq : q ∈ s.mentions x) (hr : s.Reads q r) (hbase : q.isBase = true)
      (hi : s.importFor? r m.package = some i) (hname : i.name ≠ some m.className) : NeedsAtRunTime s x m i
  /-- The mentioned type is a name from a foreign module. -/
  | foreign {q : Mention} {r : Reference} (hq : q ∈ s.mentions x) (hr : s.Reads q r)
      (hforeign : r.importModule?.isSome = true) (hi : s.importFor? r m.package = some i)
      (hname : i.name ≠ some m.className) : NeedsAtRunTime s x m i

/-- Does an annotation in the module of a subject need the import? -/
inductive NeedsForAnnotation (s : Scope) (x : Subject) (m : Module) (i : Import) : Prop
  | intro {q : Mention} {r : Reference} (hq : q ∈ s.mentions x) (hr : s.Reads q r) (hbase : q.isBase = false)
      (hforeign : r.importModule? = none) (hi : s.importFor? r m.package = some i)
      (hname : i.name ≠ some m.className) : NeedsForAnnotation s x m i

/-- The import lists of the module are what the subject needs, in order and each import once. -/
structure ImportsExactly (s : Scope) (x : Subject) (m : Module) : Prop where
  imports_ascending : m.imports.Pairwise fun i j => i.less j = true
  typeImports_ascending : m.typeImports.Pairwise fun i j => i.less j = true
  disjoint : m.imports.Disjoint m.typeImports
  mem_imports_iff : ∀ i, i ∈ m.imports ↔ s.NeedsAtRunTime x m i
  mem_typeImports_iff : ∀ i, i ∈ m.typeImports ↔ s.NeedsForAnnotation x m i ∧ i ∉ m.imports

theorem mem_wholeImports_iff {u : Use} :
    i ∈ u.wholeImports ↔ i.module ∈ u.reference.mentionedModules ∧ i.name = none := by
  obtain ⟨module, name⟩ := i
  simp [Use.wholeImports, eq_comm]

theorem atRunTime_iff {u : Use} :
    u.atRunTime = true ↔ u.isBase = true ∨ u.reference.importModule?.isSome = true := Bool.or_eq_true_iff

theorem atRunTime_eq_false_iff {u : Use} :
    u.atRunTime = false ↔ u.isBase = false ∧ u.reference.importModule? = none := by
  rw [Use.atRunTime, Bool.or_eq_false_iff, Option.isSome_eq_false_iff, Option.isNone_iff_eq_none]

section

variable (h : s.moduleOf x = .ok m)

include h

theorem eq_assemble_of_moduleOf : m = .assemble s m.package m.className m.description m.body := by
  obtain ⟨description, body, rfl⟩ := exists_assemble_of_moduleOf h
  rfl

private theorem imports_eq_of_moduleOf : m.imports = runtimeImports s m.package m.className m.body.uses :=
  congrArg Module.imports (eq_assemble_of_moduleOf h)

private theorem typeImports_eq_of_moduleOf : m.typeImports = annotationImports s m.package m.className m.body.uses :=
  congrArg Module.typeImports (eq_assemble_of_moduleOf h)

theorem mem_imports_iff_of_moduleOf : i ∈ m.imports ↔ s.NeedsAtRunTime x m i := by
  rw [imports_eq_of_moduleOf h, mem_runtimeImports_iff]
  constructor
  · rintro ⟨u, hu, hneeded⟩
    obtain ⟨q, hq, hbase, hr⟩ := (mem_uses_iff_of_moduleOf h).1 hu
    rcases hneeded with hwhole | ⟨hruntime, hi⟩
    · obtain ⟨hmodule, hname⟩ := mem_wholeImports_iff.1 hwhole
      exact .whole hq hr hmodule hname
    · obtain ⟨hi, hname⟩ := Use.import?_eq_some_iff.1 hi
      rcases atRunTime_iff.1 hruntime with hruntime | hforeign
      · exact .base hq hr (hbase ▸ hruntime) hi hname
      · exact .foreign hq hr hforeign hi hname
  · intro hneeds
    have huse {q : Mention} {r : Reference} (hq : q ∈ s.mentions x) (hr : s.Reads q r) :
        ⟨r, q.isBase⟩ ∈ m.body.uses := (mem_uses_iff_of_moduleOf h).2 ⟨q, hq, rfl, hr⟩
    cases hneeds with
    | whole hq hr hmodule hname => exact ⟨_, huse hq hr, .inl (mem_wholeImports_iff.2 ⟨hmodule, hname⟩)⟩
    | base hq hr hbase hi hname =>
      exact ⟨_, huse hq hr, .inr ⟨atRunTime_iff.2 (.inl hbase), Use.import?_eq_some_iff.2 ⟨hi, hname⟩⟩⟩
    | foreign hq hr hforeign hi hname =>
      exact ⟨_, huse hq hr, .inr ⟨atRunTime_iff.2 (.inr hforeign), Use.import?_eq_some_iff.2 ⟨hi, hname⟩⟩⟩

theorem mem_typeImports_iff_of_moduleOf : i ∈ m.typeImports ↔ s.NeedsForAnnotation x m i ∧ i ∉ m.imports := by
  rw [typeImports_eq_of_moduleOf h, mem_annotationImports_iff, ← imports_eq_of_moduleOf h, and_comm]
  refine and_congr_left fun _ => ⟨?_, ?_⟩
  · rintro ⟨u, hu, hannotation, hi⟩
    obtain ⟨q, hq, hbase, hr⟩ := (mem_uses_iff_of_moduleOf h).1 hu
    obtain ⟨hi, hname⟩ := Use.import?_eq_some_iff.1 hi
    obtain ⟨hextended, hforeign⟩ := atRunTime_eq_false_iff.1 hannotation
    exact .intro hq hr (hbase ▸ hextended) hforeign hi hname
  · rintro @⟨q, r, hq, hr, hbase, hforeign, hi, hname⟩
    exact ⟨⟨r, q.isBase⟩, (mem_uses_iff_of_moduleOf h).2 ⟨q, hq, rfl, hr⟩,
      atRunTime_eq_false_iff.2 ⟨hbase, hforeign⟩, Use.import?_eq_some_iff.2 ⟨hi, hname⟩⟩

end

/-! ### Strict order -/

private theorem getLast?_path (fromPackage toPackage : String) :
    (Import.path fromPackage toPackage "").toList.getLast? = some '.' := by
  unfold Import.path
  split
  · decide
  · split
    · rw [String.append_empty, String.toList_append]
      exact List.getLast?_concat
    · simp [List.replicate_succ']

/-- No module that is imported whole ends in a dot. -/
private theorem getLast?_of_mem_mentionedModules (h : s.Resolves r) {module : String}
    (hmodule : module ∈ r.mentionedModules) : module.toList.getLast? ≠ some '.' := by
  obtain ⟨context, h⟩ := h
  have hbare : module ∈ r.bare.mentionedModules := hmodule
  have hmeans := resolveName_eq_ok_iff.1 h
  generalize r.bare = bare at hbare hmeans
  cases hmeans with
  | builtin | imported | generated => cases hbare
  | expression hbuiltin htarget hsplit => exact Target.getLast?_of_mem_modules hbare

/-- An import without a name would be that of a class without a name, whose module ends in a dot. -/
private theorem getLast?_of_importFor? (h : s.Resolves r) {package : String} (hi : s.importFor? r package = some i)
    (hname : i.name = some "") : i.module.toList.getLast? = some '.' := by
  have htarget : r.target = "" := Option.some.inj ((name_of_importFor? hi).symm.trans hname)
  obtain ⟨context, h⟩ := h
  have hbare : r.bare.target = "" := htarget
  have horigin : r.bare.origin = r.origin := rfl
  have hmeans := resolveName_eq_ok_iff.1 h
  generalize r.bare = bare at hbare horigin hmeans
  unfold importFor? at hi
  rw [← horigin] at hi
  cases hmeans with
  | builtin | expression => cases hi
  | imported hbuiltin hfind hsplit => exact absurd hbare (Target.ne_empty_of_split? hsplit)
  | generated hgenerates =>
    obtain rfl := Option.some.inj hi
    have hmodule : Naming.moduleName r.target = "" := by rw [htarget]; decide
    simp only [hmodule]
    exact getLast?_path package _

/-- A whole module and a name of a module never look alike. -/
private theorem eq_of_key_eq (h : s.moduleOf x = .ok m) (hi : i ∈ m.imports ++ m.typeImports)
    (hj : j ∈ m.imports ++ m.typeImports) (he : i.key = j.key) : i = j := by
  have hdot {k : Import} (hk : k ∈ m.imports ++ m.typeImports) :
      (k.name = none → k.module.toList.getLast? ≠ some '.') ∧
        (k.name = some "" → k.module.toList.getLast? = some '.') := by
    obtain ⟨u, hu, hk⟩ := (mem_imports_append_iff_of_eq_assemble (eq_assemble_of_moduleOf h)).1 hk
    obtain ⟨q, -, -, context, hr⟩ := (mem_uses_iff_of_moduleOf h).1 hu
    have hr := resolves_of_resolve hr
    rcases mem_needs_iff.1 hk with hk | hk
    · obtain ⟨hmodule, hname⟩ := mem_wholeImports_iff.1 hk
      exact ⟨fun _ => getLast?_of_mem_mentionedModules hr hmodule, fun hsome => absurd (hname.symm.trans hsome) nofun⟩
    · have hk := (Use.import?_eq_some_iff.1 hk).1
      exact ⟨fun hnone => absurd ((name_of_importFor? hk).symm.trans hnone) nofun, getLast?_of_importFor? hr hk⟩
  obtain ⟨module, name⟩ := i
  obtain ⟨module', name'⟩ := j
  obtain ⟨rfl, hname⟩ : module = module' ∧ name.getD "" = name'.getD "" := Prod.mk.inj (toLex_inj.1 he)
  cases name with
  | none =>
    cases name' with
    | none => rfl
    | some name' =>
      obtain rfl : name' = "" := hname.symm
      exact absurd ((hdot hj).2 rfl) ((hdot hi).1 rfl)
  | some name =>
    cases name' with
    | none =>
      obtain rfl : name = "" := hname
      exact absurd ((hdot hi).2 rfl) ((hdot hj).1 rfl)
    | some name' => exact congrArg (fun name => Import.mk module (some name)) hname

private theorem pairwise_sorted (h : s.moduleOf x = .ok m) {imports : List Import}
    (hsubset : ∀ i ∈ Import.sorted imports, i ∈ m.imports ++ m.typeImports) :
    (Import.sorted imports).Pairwise fun i j => i.less j = true :=
  pairwise_less_ascending Import.key Import.less_iff fun i hi j hj =>
    eq_of_key_eq h (hsubset i (Import.mem_sorted.2 hi)) (hsubset j (Import.mem_sorted.2 hj))

theorem importsExactly_of_ok (h : s.moduleOf x = .ok m) : s.ImportsExactly x m where
  imports_ascending := by
    have himports := imports_eq_of_moduleOf h
    rw [himports]
    exact pairwise_sorted h fun i hi => List.mem_append_left _ (himports ▸ hi)
  typeImports_ascending := by
    have htypeImports := typeImports_eq_of_moduleOf h
    rw [htypeImports]
    exact pairwise_sorted h fun i hi => List.mem_append_right _ (htypeImports ▸ hi)
  disjoint := fun i hi hi' => ((mem_typeImports_iff_of_moduleOf h).1 hi').2 hi
  mem_imports_iff := fun i => mem_imports_iff_of_moduleOf h
  mem_typeImports_iff := fun i => mem_typeImports_iff_of_moduleOf h

end Scope

/-! ### Rearranging fields and arguments -/

namespace Schema

/-- Are two fields alike but for the order and the repetition of their arguments? -/
structure FieldDefinition.Alike (field field' : FieldDefinition) : Prop where
  name_eq : field.name = field'.name
  type_eq : field.type = field'.type
  mem_arguments_iff : ∀ a, a ∈ field.arguments ↔ a ∈ field'.arguments

/-- Do two lists have the same fields, in any order and any number of times? -/
structure SameFields (fields fields' : List FieldDefinition) : Prop where
  exists_right : ∀ field ∈ fields, ∃ field' ∈ fields', field.Alike field'
  exists_left : ∀ field' ∈ fields', ∃ field ∈ fields, field.Alike field'

/-- Do two types differ in the order and the repetition of fields and arguments only? -/
structure FieldedDefinition.Rearranged (type type' : FieldedDefinition) : Prop where
  name_eq : type.name = type'.name
  interfaces_eq : type.interfaces = type'.interfaces
  sameFields : SameFields type.fields type'.fields

theorem FieldedDefinition.Rearranged.refl (type : FieldedDefinition) : type.Rearranged type where
  name_eq := rfl
  interfaces_eq := rfl
  sameFields :=
    have halike (field : FieldDefinition) : field.Alike field := ⟨rfl, rfl, fun _ => .rfl⟩
    ⟨fun field hfield => ⟨field, hfield, halike field⟩, fun field hfield => ⟨field, hfield, halike field⟩⟩

/-- Do two definitions differ in the order and the repetition of fields and arguments only? -/
inductive Definition.Rearranged : Definition → Definition → Prop
  | object {type type' : FieldedDefinition} (h : type.Rearranged type') : Rearranged (.object type) (.object type')
  | interface {type type' : FieldedDefinition} (h : type.Rearranged type') :
      Rearranged (.interface type) (.interface type')
  | unchanged (d : Definition) : Rearranged d d

end Schema

/-- Do two subjects differ in the order and the repetition of fields and arguments only? -/
inductive Subject.Rearranged : Subject → Subject → Prop
  | object {document document' : Document} {type type' : FieldedDefinition}
      (hdocument : List.Forall₂ Definition.Rearranged document document') (h : type.Rearranged type') :
      Rearranged (.object document type) (.object document' type')
  | interface {type type' : FieldedDefinition} (h : type.Rearranged type') :
      Rearranged (.interface type) (.interface type')
  | input (name : String) (description : Option String) {fields fields' : List InputValue}
      (h : ∀ f, f ∈ fields ↔ f ∈ fields') :
      Rearranged (.input name description fields) (.input name description fields')
  | operation (root : String) {field field' : FieldDefinition} (h : field.Alike field') :
      Rearranged (.operation root field) (.operation root field')
  | root {type type' : FieldedDefinition} (h : type.Rearranged type') : Rearranged (.root type) (.root type')
  | resolvers {document document' : Document} (h : List.Forall₂ Definition.Rearranged document document') :
      Rearranged (.resolvers document) (.resolvers document')

theorem mem_fieldMentions_iff {fields : List FieldDefinition} {q : Mention} :
    q ∈ fieldMentions fields ↔
      ∃ field ∈ fields, q = .typed field.type ∨ ∃ a ∈ field.arguments, .typed a.type = q := by
  simp [fieldMentions]

namespace Schema.SameFields

variable {fields fields' : List FieldDefinition}

theorem mem_fieldMentions_iff (h : SameFields fields fields') {q : Mention} :
    q ∈ fieldMentions fields ↔ q ∈ fieldMentions fields' := by
  simp only [SchemaBindings.mem_fieldMentions_iff]
  constructor
  · rintro ⟨field, hfield, hq⟩
    obtain ⟨field', hfield', halike⟩ := h.exists_right field hfield
    simp only [halike.type_eq, halike.mem_arguments_iff] at hq
    exact ⟨field', hfield', hq⟩
  · rintro ⟨field', hfield', hq⟩
    obtain ⟨field, hfield, halike⟩ := h.exists_left field' hfield'
    simp only [← halike.type_eq, ← halike.mem_arguments_iff] at hq
    exact ⟨field, hfield, hq⟩

theorem singleton {field field' : FieldDefinition} (h : field.Alike field') : SameFields [field] [field'] where
  exists_right := by simpa using h
  exists_left := by simpa using h

end Schema.SameFields

theorem unionsContaining_eq_of_rearranged {document document' : Document}
    (h : List.Forall₂ Definition.Rearranged document document') (name : String) :
    unionsContaining document name = unionsContaining document' name := by
  induction h with
  | nil => rfl
  | cons hd hrest ih =>
    simp only [unionsContaining, List.filterMap_cons] at ih ⊢
    cases hd with
    | object | interface => exact ih
    | unchanged d => rw [ih]

/-- Rearranging a document rearranges each of the types that have resolvers. -/
theorem resolvedTypes_of_rearranged {document document' : Document}
    (h : List.Forall₂ Definition.Rearranged document document') :
    List.Forall₂ (fun type type' => type.1.Rearranged type'.1) (resolvedTypes document) (resolvedTypes document') := by
  refine List.rel_filterMap (fun d d' hd => ?_) h
  cases hd with
  | object h | interface h =>
    simp only [← h.name_eq]
    split
    · exact .none
    · exact .some h
  | unchanged d =>
    cases d with
    | object type | interface type =>
      dsimp only
      split
      · exact .none
      · exact .some (.refl type)
    | _ => exact .none

namespace Scope

variable {s : Scope} {x y : Subject} {m m' : Module} {i : Import}

theorem placeOf_eq_of_rearranged (h : x.Rearranged y) : s.placeOf x = s.placeOf y := by
  cases h with
  | object hdocument h | interface h | root h => simp only [placeOf, h.name_eq]
  | operation root h => simp only [placeOf, h.name_eq]
  | input | resolvers => rfl

theorem mem_mentions_iff_of_rearranged (h : x.Rearranged y) {q : Mention} :
    q ∈ s.mentions x ↔ q ∈ s.mentions y := by
  cases h with
  | @object document document' type type' hdocument h =>
    simp only [mentions, List.mem_append, h.sameFields.mem_fieldMentions_iff, h.interfaces_eq, h.name_eq,
      unionsContaining_eq_of_rearranged hdocument]
  | interface h => simp only [mentions, List.mem_append, h.sameFields.mem_fieldMentions_iff, h.interfaces_eq]
  | input name description h => simp only [mentions, List.mem_map, h]
  | operation root h => exact (SameFields.singleton h).mem_fieldMentions_iff
  | root h => exact h.sameFields.mem_fieldMentions_iff
  | @resolvers document document' h =>
    have htypes := resolvedTypes_of_rearranged h
    simp only [mentions, List.mem_flatMap, List.mem_cons]
    constructor
    · rintro ⟨type, htype, hq⟩
      obtain ⟨type', htype', h⟩ := exists_right_of_forall₂ htypes htype
      exact ⟨type', htype', by rwa [← h.name_eq, ← h.sameFields.mem_fieldMentions_iff]⟩
    · rintro ⟨type', htype', hq⟩
      obtain ⟨type, htype, h⟩ := exists_left_of_forall₂ htypes htype'
      exact ⟨type, htype, by rwa [h.name_eq, h.sameFields.mem_fieldMentions_iff]⟩

/-- What has a module still has one when it is rearranged. -/
theorem exists_moduleOf_of_rearranged (h : s.moduleOf x = .ok m) (hxy : x.Rearranged y) :
    ∃ m', s.moduleOf y = .ok m' :=
  exists_moduleOf_iff.2 fun q hq =>
    exists_moduleOf_iff.1 ⟨m, h⟩ q ((mem_mentions_iff_of_rearranged hxy).2 hq)

theorem place_eq_of_moduleOf (h : s.moduleOf x = .ok m) : m.place = s.placeOf x := by
  obtain ⟨description, body, rfl⟩ := exists_assemble_of_moduleOf h
  rfl

section

variable (hmentions : s.mentions x ⊆ s.mentions y) (hplace : m.place = m'.place)

include hmentions hplace

theorem NeedsAtRunTime.mono (h : s.NeedsAtRunTime x m i) : s.NeedsAtRunTime y m' i := by
  obtain ⟨hpackage, hclass⟩ := ClassPlace.mk.inj hplace
  cases h with
  | whole hq hr hmodule hname => exact .whole (hmentions hq) hr hmodule hname
  | base hq hr hbase hi hname => exact .base (hmentions hq) hr hbase (hpackage ▸ hi) (hclass ▸ hname)
  | foreign hq hr hforeign hi hname => exact .foreign (hmentions hq) hr hforeign (hpackage ▸ hi) (hclass ▸ hname)

theorem NeedsForAnnotation.mono (h : s.NeedsForAnnotation x m i) : s.NeedsForAnnotation y m' i := by
  obtain ⟨hpackage, hclass⟩ := ClassPlace.mk.inj hplace
  obtain ⟨hq, hr, hbase, hforeign, hi, hname⟩ := h
  exact .intro (hmentions hq) hr hbase hforeign (hpackage ▸ hi) (hclass ▸ hname)

end

/-- A list of imports that ascends strictly is known by its members. -/
theorem imports_ext {l l' : List Import} (h : l.Pairwise fun i j => i.less j = true)
    (h' : l'.Pairwise fun i j => i.less j = true) (hmem : ∀ i, i ∈ l ↔ i ∈ l') : l = l' := by
  have _ : Std.Irrefl fun i j : Import => i.less j = true := ⟨fun i hi => lt_irrefl _ ((Import.less_iff i i).1 hi)⟩
  have _ : Std.Antisymm fun i j : Import => i.less j = true :=
    ⟨fun i j hij hji => absurd ((Import.less_iff j i).1 hji) (lt_asymm ((Import.less_iff i j).1 hij))⟩
  exact h.eq_of_mem_iff h' hmem

/-- Rearranged subjects have the same imports. -/
theorem imports_eq_of_rearranged (h : s.moduleOf x = .ok m) (hxy : x.Rearranged y) (h' : s.moduleOf y = .ok m') :
    m'.imports = m.imports ∧ m'.typeImports = m.typeImports := by
  have hx := importsExactly_of_ok h
  have hy := importsExactly_of_ok h'
  have hplace : m.place = m'.place :=
    (place_eq_of_moduleOf h).trans ((placeOf_eq_of_rearranged hxy).trans (place_eq_of_moduleOf h').symm)
  have hmentions : s.mentions x ⊆ s.mentions y := fun q => (mem_mentions_iff_of_rearranged hxy).1
  have hmentions' : s.mentions y ⊆ s.mentions x := fun q => (mem_mentions_iff_of_rearranged hxy).2
  have himports : m'.imports = m.imports :=
    imports_ext hy.imports_ascending hx.imports_ascending fun i => by
      rw [hy.mem_imports_iff, hx.mem_imports_iff]
      exact ⟨.mono hmentions' hplace.symm, .mono hmentions hplace⟩
  refine ⟨himports, imports_ext hy.typeImports_ascending hx.typeImports_ascending fun i => ?_⟩
  rw [hy.mem_typeImports_iff, hx.mem_typeImports_iff, himports]
  exact and_congr_left fun _ => ⟨.mono hmentions' hplace.symm, .mono hmentions hplace⟩

/-- The imports of a module are exactly what the types need that its subject mentions, in strict order, and do not
change when fields and arguments are reordered or repeated. -/
theorem importsExactly_of_moduleOf (h : s.moduleOf x = .ok m) :
    s.ImportsExactly x m ∧ ∀ y, x.Rearranged y →
      ∃ m', s.moduleOf y = .ok m' ∧ m'.imports = m.imports ∧ m'.typeImports = m.typeImports := by
  refine ⟨importsExactly_of_ok h, fun y hxy => ?_⟩
  obtain ⟨m', h'⟩ := exists_moduleOf_of_rearranged h hxy
  exact ⟨m', h', imports_eq_of_rearranged h hxy h'⟩

/-- A type that mentions its interface, itself, another type and two custom types, then with its fields turned round
and the arguments of one repeated. -/
theorem importsExactly_user :
    let node : FieldDefinition := ⟨"node", none, [], .named "Node" true⟩
    let friends : FieldDefinition :=
      ⟨"friends", none, [⟨"at", none, .named "Place" false, none⟩, ⟨"since", none, .named "Date" false, none⟩],
        .list (.named "User" false) false⟩
    let homes : FieldDefinition := ⟨"homes", none, [], .named "Homes" false⟩
    let friends' : FieldDefinition := { friends with arguments := friends.arguments ++ friends.arguments }
    let user : FieldedDefinition := ⟨"User", none, ["Node"], [node, friends, homes]⟩
    let user' : FieldedDefinition := { user with fields := [homes, friends', node, homes] }
    let others : Document := [.interface ⟨"Node", none, [], []⟩, .input "Place" none []]
    let s := ofRun
      { Options.unset with customTypes := Table.ofList [("Date", "datetime.date"), ("Homes", "list[maps.Home]")] }
      [.object user :: others]
    let x : Subject := .object (.object user :: others) user
    ∃ m, s.moduleOf x = .ok m ∧ s.ImportsExactly x m ∧
      m.imports = [⟨".node", some "Node"⟩, ⟨"datetime", some "date"⟩, ⟨"maps", none⟩] ∧
      m.typeImports = [⟨".place", some "Place"⟩] ∧
      ∃ m', s.moduleOf (.object (.object user' :: others) user') = .ok m' ∧ m'.imports = m.imports ∧
        m'.typeImports = m.typeImports := by
  intro node friends homes friends' user user' others s x
  have hbases : s.mapBases user.name (user.interfaces ++ unionsContaining (.object user :: others) user.name) =
      .ok [.plain "Node" "Node" .generated] := by
    have hfind : s.interfaces.find? "Node" = some [] := by decide +kernel
    have hancestors : s.ancestors "Node" = [] := by simp [ancestors, reachable, hfind, reachedFrom_nil]
    have hminimal : s.minimalNames ["Node"] = ["Node"] := by simp [minimalNames, List.eraseDups_cons, hancestors]
    have hnames : user.interfaces ++ unionsContaining (.object user :: others) user.name = ["Node"] := by decide
    rw [mapBases, hnames, hminimal]
    decide +kernel
  have hlists : (s.moduleOf x).toOption.map (fun m => (m.imports, m.typeImports)) =
      some ([⟨".node", some "Node"⟩, ⟨"datetime", some "date"⟩, ⟨"maps", none⟩], [⟨".place", some "Place"⟩]) := by
    simp only [x, moduleOf, objectModule, hbases]
    decide +kernel
  obtain ⟨m, h⟩ := exists_eq_ok_of_isSome (x := s.moduleOf x) (by rw [← Option.isSome_map, hlists]; rfl)
  rw [h] at hlists
  obtain ⟨himports, htypeImports⟩ := Prod.mk.inj (Option.some.inj hlists)
  have halike (field : FieldDefinition) : field.Alike field := ⟨rfl, rfl, fun _ => .rfl⟩
  have hfriends : friends.Alike friends' := ⟨rfl, rfl, fun a => by simp [friends']⟩
  have huser : user.Rearranged user' := ⟨rfl, rfl, {
    exists_right := by simp [user, user', halike, hfriends]
    exists_left := by simp [user, user', halike, hfriends] }⟩
  have hdocument : List.Forall₂ Definition.Rearranged (.object user :: others) (.object user' :: others) :=
    .cons (.object huser) (List.forall₂_same.2 fun d _ => .unchanged d)
  obtain ⟨hexactly, hrearranged⟩ := importsExactly_of_moduleOf h
  exact ⟨m, h, hexactly, himports, htypeImports, hrearranged _ (.object hdocument huser)⟩

end Scope

end SchemaBindings
