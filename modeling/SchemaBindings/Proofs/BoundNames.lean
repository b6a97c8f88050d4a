import SchemaBindings.Layout
import SchemaBindings.Proofs.AscendingLists
import SchemaBindings.Proofs.ModuleImports

/-!
# Names that a module binds

The statements at the top of a module bind names: the imports that its layout makes for itself, the imports that its
references need, and its classes. No name is bound twice exactly if no class and no import is called like something
that the layout imports, no import is called like a class, and no two references bring in different things by one name
(`nodup_boundNames_iff`). The last happens only where one of the two has a custom type, or where both mean classes of
the run in different packages. The future import is left out: it switches on a feature, and nothing reads its name.
-/

namespace SchemaBindings

open Schema

/-! ### What binds names -/

/-- The name that an import binds: the name from the module, or the first part of the name of a whole module. -/
def Import.boundName (i : Import) : String := i.name.getD ((Text.split '.' i.module).headD "")

namespace Module

/-- The imports that the layout of the module makes for itself: from which modules, and what. -/
def layoutImports (m : Module) : List (String × List String) :=
  let condition := if m.typeImports.isEmpty then [] else [Layout.typeCondition]
  match m.body with
  | .record .. =>
    (if m.typeImports.isEmpty then [] else [("typing", condition)]) ++
      [("pydantic", ["BaseModel", "ConfigDict", "Field"])]
  | .enumeration _ => [("enum", ["Enum"])]
  | .union _ => [("pydantic", ["BaseModel"])]
  | .operations .. | .resolvers _ => [("typing", condition ++ ["Protocol"])]

/-- The classes that the module defines, with their bases. -/
def classes (m : Module) : List (String × List String) :=
  match m.body with
  | .record _ _ bases => [(m.className, Layout.recordBases bases)]
  | .enumeration _ => [(m.className, ["str", "Enum"])]
  | .union _ => [(m.className, ["BaseModel"])]
  | .operations .. => [(m.className, ["Protocol"])]
  | .resolvers entries => entries.map (fun e => (e.resolverClass, ["Protocol"])) ++ [(m.className, ["Protocol"])]

/-- The names that the layout of the module imports for itself. -/
def layoutNames (m : Module) : List String := m.layoutImports.flatMap (·.2)

/-- The names of the classes that the module defines. -/
def classNames (m : Module) : List String := m.classes.map (·.1)

/-- The line that imports names from a module for the layout. -/
def layoutLine (own : String × List String) : String := "from " ++ own.1 ++ " import " ++ ", ".intercalate own.2

/-- The lines at the top level of the module that bind names, in their order. -/
def bindingLines (m : Module) : List String :=
  m.layoutImports.map layoutLine ++
    m.imports.map Import.statement ++ m.typeImports.map (fun i => Layout.indented i.statement) ++
    m.classes.map fun c => Layout.classLine c.1 c.2

/-- The names that these lines bind, in their order. -/
def boundNames (m : Module) : List String :=
  m.layoutNames ++ (m.imports ++ m.typeImports).map Import.boundName ++ m.classNames

end Module

/-! ### Where the lines stand -/

namespace Module

variable {m : Module}

/-- The lines that bind names stand in a text of this shape. -/
private theorem bindingLines_sublist_of_parts (front : List String) {own classes : List String}
    (hown : (m.layoutImports.map layoutLine).Sublist own)
    (hclasses : (m.classes.map fun c => Layout.classLine c.1 c.2).Sublist classes) :
    m.bindingLines.Sublist (front ++ own ++ Layout.importLines m ++ classes) := by
  have himports : (m.imports.map Import.statement ++ m.typeImports.map fun i => Layout.indented i.statement).Sublist
      (Layout.importLines m) := by
    unfold Layout.importLines
    refine (List.Sublist.refl _).append ?_
    cases m.typeImports with
    | nil => exact List.Sublist.refl []
    | cons i typeImports => exact List.sublist_append_right _ _
  have hparts := ((hown.trans (List.sublist_append_right front own)).append himports).append hclasses
  rwa [← List.append_assoc] at hparts

private theorem bindingLines_sublist_record (o : Options) {kind : RecordKind} {fields : List Field}
    {bases : List Reference} (hbody : m.body = .record kind fields bases) :
    m.bindingLines.Sublist (Layout.recordLines o m kind fields bases) := by
  have hown : (m.layoutImports.map layoutLine).Sublist
      ((if m.typeImports.isEmpty then [] else ["from typing import " ++ Layout.typeCondition, ""]) ++
        ["from pydantic import BaseModel, ConfigDict, Field"]) := by
    simp only [layoutImports, hbody]
    cases m.typeImports.isEmpty <;> decide +kernel
  have hclasses : (m.classes.map fun c => Layout.classLine c.1 c.2).Sublist
      (Layout.gap ++ [Layout.classLine m.className (Layout.recordBases bases)] ++ Layout.recordBody o m fields) := by
    simp only [classes, hbody]
    exact (List.sublist_append_right Layout.gap _).trans (List.sublist_append_left _ _)
  have h := bindingLines_sublist_of_parts (Layout.recordBanner kind m.className ++ [""] ++ Layout.futureImport) hown
    hclasses
  simpa only [Layout.recordLines, List.append_assoc] using h

/-- The lines of a module with protocols. -/
private theorem bindingLines_sublist_protocols (title : String) {classes : List String}
    (hown : m.layoutImports =
      [("typing", (if m.typeImports.isEmpty then [] else [Layout.typeCondition]) ++ ["Protocol"])])
    (hclasses : (m.classes.map fun c => Layout.classLine c.1 c.2).Sublist classes) :
    m.bindingLines.Sublist (Layout.protocolTop m title ++ classes) := by
  have hown : (m.layoutImports.map layoutLine).Sublist [Layout.protocolImport m] := by
    rw [hown]
    unfold Layout.protocolImport
    cases m.typeImports.isEmpty <;> decide +kernel
  exact bindingLines_sublist_of_parts _ hown hclasses

private theorem bindingLines_sublist_operations {root : String} {whole : Bool} {methods : List Operation}
    (hbody : m.body = .operations root whole methods) :
    m.bindingLines.Sublist (Layout.operationsLines m root whole methods) := by
  have hown : m.layoutImports =
      [("typing", (if m.typeImports.isEmpty then [] else [Layout.typeCondition]) ++ ["Protocol"])] := by
    simp only [layoutImports, hbody]
  have hclasses (body : List String) : (m.classes.map fun c => Layout.classLine c.1 c.2).Sublist
      (Layout.gap ++ ([Layout.protocolLine m.className] ++ body)) := by
    simp only [classes, hbody]
    exact (List.sublist_append_left _ _).trans (List.sublist_append_right Layout.gap _)
  unfold Layout.operationsLines
  rw [List.append_assoc, List.append_assoc]
  exact bindingLines_sublist_protocols _ hown (hclasses _)

private theorem bindingLines_sublist_resolvers {entries : List ResolverEntry} (hbody : m.body = .resolvers entries) :
    m.bindingLines.Sublist (Layout.resolversLines m entries) := by
  have hown : m.layoutImports =
      [("typing", (if m.typeImports.isEmpty then [] else [Layout.typeCondition]) ++ ["Protocol"])] := by
    simp only [layoutImports, hbody]
  have hentry (entry : ResolverEntry) : [Layout.protocolLine entry.resolverClass].Sublist
      (Layout.resolverEntryLines entry) := by
    unfold Layout.resolverEntryLines
    simp
  have hentries (entries : List ResolverEntry) : (entries.map fun e => Layout.protocolLine e.resolverClass).Sublist
      (entries.flatMap Layout.resolverEntryLines) := by
    induction entries with
    | nil => exact List.Sublist.refl []
    | cons entry entries ih => exact (hentry entry).append ih
  have hmap : (m.classes.map fun c => Layout.classLine c.1 c.2) =
      entries.map (fun e => Layout.protocolLine e.resolverClass) ++ [Layout.protocolLine m.className] := by
    simp only [classes, hbody, List.map_append, List.map_map]
    rfl
  have hclasses (doc : String) (rest : List String) : (m.classes.map fun c => Layout.classLine c.1 c.2).Sublist
      ([""] ++ (entries.flatMap Layout.resolverEntryLines ++
        (["", Layout.protocolLine m.className, doc, ""] ++ rest))) := by
    have hlast : [Layout.protocolLine m.className].Sublist
        (["", Layout.protocolLine m.className, doc, ""] ++ rest) := by
      simp
    rw [hmap]
    exact ((hentries entries).append hlast).trans (List.sublist_append_right _ _)
  unfold Layout.resolversLines
  rw [List.append_assoc, List.append_assoc, List.append_assoc]
  exact bindingLines_sublist_protocols _ hown (hclasses _ _)

/-- The lines of a module that imports nothing but what its layout needs. -/
private theorem bindingLines_sublist_choice (front rest : List String) (himports : m.imports = [])
    (htypeImports : m.typeImports = []) {own : String × List String} {bases : List String}
    (hown : m.layoutImports = [own]) (hclasses : m.classes = [(m.className, bases)]) :
    m.bindingLines.Sublist
      (front ++ [layoutLine own] ++ (Layout.gap ++ ([Layout.classLine m.className bases] ++ rest))) := by
  have hlines : Layout.importLines m = [] := by
    unfold Layout.importLines
    rw [himports, htypeImports]
    rfl
  have hclass : (m.classes.map fun c => Layout.classLine c.1 c.2).Sublist
      (Layout.gap ++ ([Layout.classLine m.className bases] ++ rest)) := by
    rw [hclasses]
    exact (List.sublist_append_left _ _).trans (List.sublist_append_right Layout.gap _)
  have hownLine : (m.layoutImports.map layoutLine).Sublist [layoutLine own] := by rw [hown]; exact List.Sublist.refl _
  have h := bindingLines_sublist_of_parts front hownLine hclass
  rwa [hlines, List.append_nil] at h

/-- The lines that bind names stand in the text of the module, in their order. -/
theorem bindingLines_sublist (o : Options) (hchoice : m.body.uses = [] → m.imports = [] ∧ m.typeImports = []) :
    m.bindingLines.Sublist (Layout.lines o m) := by
  unfold Layout.lines
  cases hbody : m.body with
  | record kind fields bases => exact bindingLines_sublist_record o hbody
  | enumeration values =>
    obtain ⟨himports, htypeImports⟩ := hchoice (by rw [hbody]; rfl)
    have hown : m.layoutImports = [("enum", ["Enum"])] := by simp only [layoutImports, hbody]
    have hclasses : m.classes = [(m.className, ["str", "Enum"])] := by simp only [classes, hbody]
    have hline : layoutLine ("enum", ["Enum"]) = "from enum import Enum" := by decide +kernel
    dsimp only
    unfold Layout.enumerationLines
    rw [List.append_assoc, List.append_assoc, ← hline]
    exact bindingLines_sublist_choice [_, _] _ himports htypeImports hown hclasses
  | union members =>
    obtain ⟨himports, htypeImports⟩ := hchoice (by rw [hbody]; rfl)
    have hown : m.layoutImports = [("pydantic", ["BaseModel"])] := by simp only [layoutImports, hbody]
    have hclasses : m.classes = [(m.className, ["BaseModel"])] := by simp only [classes, hbody]
    have hline : layoutLine ("pydantic", ["BaseModel"]) = "from pydantic import BaseModel" := by decide +kernel
    dsimp only
    unfold Layout.unionLines
    rw [List.append_assoc, List.append_assoc, List.append_assoc, ← hline]
    exact bindingLines_sublist_choice [_, _, _, _, _] (_ :: _) himports htypeImports hown hclasses
  | operations root whole methods => exact bindingLines_sublist_operations hbody
  | resolvers entries => exact bindingLines_sublist_resolvers hbody

/-! ### Parts that bind no name twice -/

private theorem nodup_layoutNames (m : Module) : m.layoutNames.Nodup := by
  unfold layoutNames layoutImports
  cases m.body <;> cases m.typeImports.isEmpty <;> dsimp only <;> decide

private theorem classNames_eq_singleton (h : ∀ entries, m.body ≠ .resolvers entries) :
    m.classNames = [m.className] := by
  unfold classNames classes
  cases hbody : m.body with
  | resolvers entries => exact absurd hbody (h entries)
  | record | enumeration | union | operations => rfl

/-- With classes and imports that are distinct on their own, only names of different parts and of different imports can
coincide. -/
private theorem nodup_boundNames_iff_of_parts (himports : (m.imports ++ m.typeImports).Nodup)
    (hclasses : m.classNames.Nodup) :
    m.boundNames.Nodup ↔ (∀ c ∈ m.classNames, c ∉ m.layoutNames) ∧
      (∀ i ∈ m.imports ++ m.typeImports, i.boundName ∉ m.layoutNames ∧ i.boundName ∉ m.classNames) ∧
      ∀ i ∈ m.imports ++ m.typeImports, ∀ j ∈ m.imports ++ m.typeImports, i.boundName = j.boundName → i = j := by
  unfold boundNames
  rw [List.nodup_append, List.nodup_append]
  constructor
  · rintro ⟨⟨-, hmap, hlayout⟩, -, hbefore⟩
    refine ⟨fun c hc hc' => ?_, fun i hi => ⟨fun hi' => ?_, fun hi' => ?_⟩, fun i hi j hj he => ?_⟩
    · exact hbefore c (List.mem_append_left _ hc') c hc rfl
    · exact hlayout _ hi' _ (List.mem_map_of_mem hi) rfl
    · exact hbefore _ (List.mem_append_right _ (List.mem_map_of_mem hi)) _ hi' rfl
    · exact List.inj_on_of_nodup_map hmap hi hj he
  · rintro ⟨hclass, himport, hinj⟩
    have hmap : ((m.imports ++ m.typeImports).map Import.boundName).Nodup := himports.map_on hinj
    have hlayout : ∀ a ∈ m.layoutNames, ∀ b ∈ (m.imports ++ m.typeImports).map Import.boundName, a ≠ b := by
      rintro a ha b hb rfl
      obtain ⟨i, hi, rfl⟩ := List.mem_map.1 hb
      exact (himport i hi).1 ha
    refine ⟨⟨nodup_layoutNames m, hmap, hlayout⟩, hclasses, ?_⟩
    rintro a ha c hc rfl
    rcases List.mem_append.1 ha with ha | ha
    · exact hclass a hc ha
    · obtain ⟨i, hi, rfl⟩ := List.mem_map.1 ha
      exact (himport i hi).2 hc

end Module

namespace Scope

variable {s : Scope} {document : Document} {m : Module}

private theorem imports_eq_nil_of_uses (hm : m ∈ (s.mapDocument document).modules) (huses : m.body.uses = []) :
    m.imports = [] ∧ m.typeImports = [] := by
  have hnone : m.imports ++ m.typeImports = [] := by
    refine List.eq_nil_iff_forall_not_mem.2 fun i hi => ?_
    obtain ⟨u, hu, -⟩ := (mem_imports_append_iff hm).1 hi
    rw [huses] at hu
    cases hu
  exact List.append_eq_nil_iff.1 hnone

private theorem nodup_imports (hm : m ∈ (s.mapDocument document).modules) : (m.imports ++ m.typeImports).Nodup := by
  rw [eq_assemble_of_mem_mapDocument hm]
  refine List.nodup_append.2 ⟨Import.nodup_sorted _, Import.nodup_sorted _, ?_⟩
  rintro i hi j hj rfl
  exact (mem_annotationImports_iff.1 hj).1 hi

private theorem name_resolvedTypes_sublist (document : Document) :
    ((resolvedTypes document).map fun type => type.1.name).Sublist (document.filterMap Definition.typeName?) := by
  unfold resolvedTypes
  induction document with
  | nil => exact .slnil
  | cons d document ih =>
    match d with
    | .object type | .interface type =>
      by_cases hroot : Naming.isRoot type.name = true
      · simpa [Definition.typeName?, hroot] using ih.cons type.name
      · simpa [Definition.typeName?, hroot] using ih
    | .scalar n | .enumeration n .. | .input n .. | .union n .. => exact ih.cons n
    | .schema | .directive _ | .extension .. | .operation _ | .fragment _ => exact ih

private theorem resolverClass_of_resolverEntry {type : FieldedDefinition} {isInterface : Bool} {entry : ResolverEntry}
    (h : s.resolverEntry type isInterface = .ok entry) : entry.resolverClass = type.name ++ "Resolver" := by
  obtain ⟨model, -, h⟩ := bind_eq_ok_iff.1 h
  obtain ⟨fields, -, h⟩ := bind_eq_ok_iff.1 h
  cases h
  rfl

private theorem nodup_resolverClasses (hdistinct : (document.filterMap Definition.typeName?).Nodup)
    {entries : List ResolverEntry}
    (hentries : (resolvedTypes document).mapM (fun type => s.resolverEntry type.1 type.2) = .ok entries) :
    (entries.map ResolverEntry.resolverClass ++ [resolversClass]).Nodup := by
  have hnames := hdistinct.sublist (name_resolvedTypes_sublist document)
  have hclasses : entries.map ResolverEntry.resolverClass =
      (resolvedTypes document).map fun type => type.1.name ++ "Resolver" :=
    map_eq_of_mapM hentries fun type entry h => resolverClass_of_resolverEntry h
  rw [hclasses]
  refine List.nodup_append.2 ⟨?_, List.nodup_singleton _, ?_⟩
  · refine List.pairwise_map.2 ((List.pairwise_map.1 hnames).imp fun hne he => hne ?_)
    exact (String.append_left_inj "Resolver").1 he
  · intro c hc c' hc' he
    obtain ⟨type, -, rfl⟩ := List.mem_map.1 hc
    rw [List.mem_singleton] at hc'
    -- the last letters differ
    have hlast := congrArg (fun c : String => c.toList.getLast?) (he.trans hc')
    simp [resolversClass] at hlast

private theorem nodup_classNames (hdistinct : (document.filterMap Definition.typeName?).Nodup)
    (hm : m ∈ (s.mapDocument document).modules) : m.classNames.Nodup := by
  rcases origin_of_mem_mapDocument hm with ⟨d, -, modules, hmodules, hm⟩ | hresolvers
  · have hbody := ((yields_of_definitionModules hmodules).eq_assemble m hm).2
    rw [Module.classNames_eq_singleton hbody]
    exact List.nodup_singleton _
  · obtain ⟨entries, hentries, rfl⟩ := resolverModule_eq_ok_iff.1 hresolvers
    have hnames : (s.apiModule resolversClass none (.resolvers entries)).classNames =
        entries.map ResolverEntry.resolverClass ++ [resolversClass] := by
      show (entries.map (fun e => (e.resolverClass, ["Protocol"])) ++ [(resolversClass, ["Protocol"])]).map (·.1) = _
      simp
    rw [hnames]
    exact nodup_resolverClasses hdistinct hentries

/-! ### Modules that bind no name twice -/

/-- Do both references mean classes of the run in one package? -/
def InOnePackage (s : Scope) (r r' : Reference) : Prop :=
  r.isGenerated = true ∧ r'.isGenerated = true ∧ s.packageOf r.schemaName = s.packageOf r'.schemaName

/-- A reference to a class of the run needs the import that its package and its target lay down. -/
private theorem eq_of_mem_needs {u : Use} (hu : u.reference.isGenerated = true) {i : Import} (hi : i ∈ s.needs m u) :
    i.boundName = u.reference.target ∧
      i = { module := Import.path m.package (s.packageOf u.reference.schemaName) (Naming.moduleName u.reference.target)
            name := some u.reference.target } := by
  have horigin : u.reference.origin = .generated := Reference.isGenerated_iff.1 hu
  rcases mem_needs_iff.1 hi with hwhole | hi
  · simp [Use.wholeImports, Reference.mentionedModules, horigin] at hwhole
  · have hi := (Use.import?_eq_some_iff.1 hi).1
    rw [s.importFor?_of_generated m.package horigin] at hi
    cases hi
    exact ⟨rfl, rfl⟩

private theorem eq_of_inOnePackage {u v : Use} (h : s.InOnePackage u.reference v.reference) {i j : Import}
    (hi : i ∈ s.needs m u) (hj : j ∈ s.needs m v) (he : i.boundName = j.boundName) : i = j := by
  obtain ⟨hu, hv, hpackage⟩ := h
  obtain ⟨hi, hieq⟩ := eq_of_mem_needs hu hi
  obtain ⟨hj, hjeq⟩ := eq_of_mem_needs hv hj
  have htarget : u.reference.target = v.reference.target := hi.symm.trans (he.trans hj)
  rw [hieq, hjeq, hpackage, htarget]

/-- What keeps the names that a module binds apart. -/
structure BindsApart (s : Scope) (m : Module) : Prop where
  classes : ∀ c ∈ m.classNames, c ∉ m.layoutNames
  imports : ∀ u ∈ m.body.uses, ∀ i ∈ s.needs m u, i.boundName ∉ m.layoutNames ∧ i.boundName ∉ m.classNames
  /-- Only imports of classes in one package are apart by themselves. -/
  uses : ∀ u ∈ m.body.uses, ∀ v ∈ m.body.uses, ¬ s.InOnePackage u.reference v.reference →
    ∀ i ∈ s.needs m u, ∀ j ∈ s.needs m v, i.boundName = j.boundName → i = j

/-- The names that a module of a document binds stand in its text in their order, and none of them is bound twice
exactly if `BindsApart` holds. -/
theorem nodup_boundNames_iff (hdistinct : (document.filterMap Definition.typeName?).Nodup)
    (hm : m ∈ (s.mapDocument document).modules) :
    (∀ o, m.bindingLines.Sublist (Layout.lines o m)) ∧ (m.boundNames.Nodup ↔ s.BindsApart m) := by
  refine ⟨fun o => m.bindingLines_sublist o (imports_eq_nil_of_uses hm), ?_⟩
  rw [Module.nodup_boundNames_iff_of_parts (nodup_imports hm) (nodup_classNames hdistinct hm)]
  simp only [mem_imports_append_iff hm]
  constructor
  · rintro ⟨hclasses, himports, hinj⟩
    exact ⟨hclasses, fun u hu i hi => himports i ⟨u, hu, hi⟩,
      fun u hu v hv _ i hi j hj he => hinj i ⟨u, hu, hi⟩ j ⟨v, hv, hj⟩ he⟩
  · intro h
    refine ⟨h.classes, fun i ⟨u, hu, hi⟩ => h.imports u hu i hi, fun i ⟨u, hu, hi⟩ j ⟨v, hv, hj⟩ he => ?_⟩
    by_cases hpackage : s.InOnePackage u.reference v.reference
    · exact eq_of_inOnePackage hpackage hi hj he
    · exact h.uses u hu v hv hpackage i hi j hj he

/-- A type with a scalar that has a custom type, and an operation that returns it. -/
theorem nodup_boundNames_user :
    let o : Options := { Options.unset with customTypes := Table.ofList [("Date", "datetime.date")] }
    let document : Document := [.scalar "Date",
      .object ⟨"User", none, [], [⟨"friend", none, [], .named "User" false⟩, ⟨"born", none, [], .named "Date" false⟩]⟩,
      .object ⟨"Query", none, [], [⟨"user", none, [], .named "User" false⟩]⟩]
    let mapped := (ofRun o [document]).mapDocument document
    (document.filterMap Definition.typeName?).Nodup ∧
      mapped.modules.map Module.className = ["User", "UserQuery", "Query", "Resolvers"] ∧
      ∀ m ∈ mapped.modules, m.boundNames.Nodup ∧ (ofRun o [document]).BindsApart m := by
  intro o document mapped
  have hdistinct : (document.filterMap Definition.typeName?).Nodup := by decide
  have hnodup : ∀ m ∈ mapped.modules, m.boundNames.Nodup := by decide +kernel
  exact ⟨hdistinct, by decide +kernel, fun m hm => ⟨hnodup m hm, (nodup_boundNames_iff hdistinct hm).2.1 (hnodup m hm)⟩⟩

/-- Modules may bind a name twice: an import and a resolver class, imports of two custom types, and the class of a type
and what its layout imports. -/
theorem shared_boundNames :
    (let document : Document := [.object ⟨"User", none, [], [⟨"id", none, [], .named "ID" false⟩]⟩,
        .object ⟨"UserResolver", none, [], [⟨"id", none, [], .named "ID" false⟩]⟩]
      let mapped := (ofRun .unset [document]).mapDocument document
      (document.filterMap Definition.typeName?).Nodup ∧ ∃ m ∈ mapped.modules, ¬ m.boundNames.Nodup) ∧
    (let o : Options := { Options.unset with
        customTypes := Table.ofList [("Price", "retail.Money"), ("Cost", "wholesale.Money")] }
      let document : Document := [.scalar "Price", .scalar "Cost", .object ⟨"Item", none, [],
        [⟨"price", none, [], .named "Price" false⟩, ⟨"cost", none, [], .named "Cost" false⟩]⟩]
      let mapped := (ofRun o [document]).mapDocument document
      (document.filterMap Definition.typeName?).Nodup ∧ ∃ m ∈ mapped.modules, ¬ m.boundNames.Nodup) ∧
    (let document : Document := [.object ⟨"BaseModel", none, [], [⟨"id", none, [], .named "ID" false⟩]⟩]
      let mapped := (ofRun .unset [document]).mapDocument document
      (document.filterMap Definition.typeName?).Nodup ∧ ∃ m ∈ mapped.modules, ¬ m.boundNames.Nodup) := by
  decide +kernel

end Scope

end SchemaBindings
