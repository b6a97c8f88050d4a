import SchemaBindings.Proofs.MemberNames
import SchemaBindings.Proofs.ModuleImports

/-!
# Parents of resolvers

Each method of a resolver takes the parent of its field. The annotation of the parent is the name of the class that
the run would generate for the type; the import is the one that the name of the type needs. The two agree unless the
type has a custom type of another name. The import is there unless it has the name of the class that gathers the
resolvers. These are all the ways in which the parent gets out of scope (`parentInScope_iff`).
-/

namespace SchemaBindings

open Schema

/-- The types whose resolvers the module holds. -/
def Module.entries (m : Module) : List ResolverEntry :=
  match m.body with
  | .resolvers entries => entries
  | _ => []

namespace Scope

variable {s : Scope} {m : Module} {e : ResolverEntry}

/-! ### What the annotation of a parent needs -/

/-- The imports that a module of a package needs for a reference, if the class of the module does not matter. -/
def importsFor (s : Scope) (package : String) (r : Reference) : List Import :=
  r.mentionedModules.map (fun module => { module, name := none }) ++ (s.importFor? r package).toList

/-- Where the type of the entry needs imports, is it what the annotation of the parent says, and are they there? -/
def ParentInScope (s : Scope) (m : Module) (e : ResolverEntry) : Prop :=
  ∀ i ∈ s.importsFor m.package e.model, e.modelClass = e.model.target ∧ i ∈ m.imports ++ m.typeImports

instance (s : Scope) (m : Module) (e : ResolverEntry) : Decidable (s.ParentInScope m e) :=
  inferInstanceAs (Decidable (∀ i ∈ s.importsFor m.package e.model,
    e.modelClass = e.model.target ∧ i ∈ m.imports ++ m.typeImports))

private theorem parentInScope_iff_of_mem_uses (hm : m = .assemble s m.package m.className m.description m.body)
    (hu : ⟨e.model, false⟩ ∈ m.body.uses) :
    s.ParentInScope m e ↔ (s.importsFor m.package e.model ≠ [] → e.modelClass = e.model.target) ∧
      ((s.importFor? e.model m.package).isSome → e.model.target ≠ m.className) := by
  constructor
  · intro h
    constructor
    · intro hne
      obtain ⟨i, hi⟩ := List.exists_mem_of_ne_nil _ hne
      exact (h i hi).1
    · intro hsome
      obtain ⟨i, hi⟩ := Option.isSome_iff_exists.1 hsome
      have hmem : i ∈ s.importsFor m.package e.model := List.mem_append_right _ (by simp [hi])
      exact (mem_imports_iff_of_eq_assemble hm hu hi).1 (h i hmem).2
  · rintro ⟨hclass, hother⟩ i hi
    refine ⟨hclass (List.ne_nil_of_mem hi), ?_⟩
    rcases List.mem_append.1 hi with hwhole | hi
    · exact (mem_imports_append_iff_of_eq_assemble hm).2 ⟨_, hu, mem_needs_iff.2 (.inl hwhole)⟩
    · have hi : s.importFor? e.model m.package = some i := by simpa using hi
      exact (mem_imports_iff_of_eq_assemble hm hu hi).2 (hother (by simp [hi]))

/-! ### Entries of resolvers -/

private theorem entry_of_resolverEntry {type : FieldedDefinition} {isInterface : Bool}
    (h : s.resolverEntry type isInterface = .ok e) :
    s.resolveName e.name (some e.name) = .ok e.model ∧ e.modelClass = s.className e.name := by
  obtain ⟨model, hmodel, h⟩ := bind_eq_ok_iff.1 h
  obtain ⟨fields, -, rfl⟩ := bind_pure_eq_ok_iff.1 h
  exact ⟨hmodel, rfl⟩

private theorem methodLine_mem_lines (he : e ∈ m.entries) (o : Options) {f : Field} (hf : f ∈ e.fields) :
    Layout.methodLine (Naming.methodName f.name) ("self, parent: " ++ e.modelClass) f.arguments f.type ∈
      Layout.lines o m := by
  have hmember : Member.ofResolver e f ∈ (m.members o).flatten := by
    unfold Module.entries at he
    split at he
    · next entries hbody =>
      unfold Module.members
      rw [hbody]
      exact List.mem_flatten.2 ⟨_, List.mem_append_left _ (List.mem_map_of_mem he), List.mem_map_of_mem hf⟩
    · cases he
  rw [← Member.line_method]
  exact (m.members_sublist o).subset (List.mem_map_of_mem hmember)

/-! ### What names with custom types mean -/

section

variable {o : Options} {documents : List Document} {n : String} {context : Option String} {r : Reference}

/-- A custom type that is no dotted name is used as it stands. -/
theorem resolveName_of_expression (hbuiltin : builtinScalars.lookup n = none) {target : String}
    (htarget : o.customTypes.find? n = some target) (hsplit : Target.split? target = none) :
    (ofRun o documents).resolveName n context = .ok (.plain n target (.expression (Target.modules target))) := by
  have hfind : (ofRun o documents).targets.find? n = some target := by rw [find?_ofRun, htarget, Option.some_or]
  exact resolveName_eq_ok_iff.2 (.expression hbuiltin hfind hsplit)

/-- An expression that mentions modules is a custom type. -/
theorem exists_customType_of_expression (h : (ofRun o documents).resolveName n context = .ok r)
    {modules : List String} (hr : r.origin = .expression modules) (hmodules : modules ≠ []) :
    builtinScalars.lookup n = none ∧ o.customTypes.find? n = some r.target ∧ Target.split? r.target = none ∧
      modules = Target.modules r.target := by
  cases resolveName_eq_ok_iff.1 h with
  | builtin | imported | generated => cases hr
  | expression hbuiltin htarget hsplit =>
    cases hr
    refine ⟨hbuiltin, (find?_ofRun_eq_some htarget).resolve_right ?_, hsplit, rfl⟩
    rintro rfl
    have hscalar : Target.modules Targets.scalarTarget = [] := by decide +kernel
    exact hmodules hscalar

/-! ### Parents in scope -/

/-- The parent of the resolvers of a type gets out of scope. -/
inductive LosesParent (o : Options) (documents : List Document) (n : String) : Prop
  /-- The type has a custom type that is imported: by another name, or by the name of the class of all resolvers. -/
  | imported {target module imported : String} (hbuiltin : builtinScalars.lookup n = none)
      (htarget : o.customTypes.find? n = some target) (hsplit : Target.split? target = some (module, imported))
      (hname : imported ≠ (ofRun o documents).className n ∨ imported = resolversClass) : LosesParent o documents n
  /-- The type has a custom type that mentions modules and is no name. -/
  | expression {target : String} (hbuiltin : builtinScalars.lookup n = none)
      (htarget : o.customTypes.find? n = some target) (hsplit : Target.split? target = none)
      (hmodules : Target.modules target ≠ []) (hname : target ≠ (ofRun o documents).className n) :
      LosesParent o documents n
  /-- The class of the type is called like the class of all resolvers. -/
  | generated (hgenerates : (ofRun o documents).Generates n)
      (hname : (ofRun o documents).className n = resolversClass) : LosesParent o documents n

private theorem losesParent_iff (h : (ofRun o documents).resolveName n context = .ok r) (package : String) :
    LosesParent o documents n ↔
      (ofRun o documents).importsFor package r ≠ [] ∧ r.target ≠ (ofRun o documents).className n ∨
        ((ofRun o documents).importFor? r package).isSome ∧ r.target = resolversClass := by
  constructor
  · intro hloses
    cases hloses with
    | @imported target module imported hbuiltin htarget hsplit hname =>
      rw [resolveName_of_customType hbuiltin htarget hsplit] at h
      cases h
      exact hname.imp (fun hname => ⟨List.append_ne_nil_of_right_ne_nil _ (List.cons_ne_nil _ _), hname⟩)
        fun hname => ⟨rfl, hname⟩
    | @expression target hbuiltin htarget hsplit hmodules hname =>
      rw [resolveName_of_expression hbuiltin htarget hsplit] at h
      cases h
      exact .inl ⟨List.append_ne_nil_of_left_ne_nil (mt List.map_eq_nil_iff.1 hmodules) _, hname⟩
    | generated hgenerates hname =>
      rw [hgenerates.resolveName] at h
      cases h
      exact .inr ⟨rfl, hname⟩
  · -- where the reference comes from tells which of the three ways it is
    intro h'
    cases horigin : r.origin with
    | builtin => simp [importsFor, importFor?, Reference.mentionedModules, horigin] at h'
    | imported module =>
      obtain ⟨hbuiltin, target, htarget, hsplit⟩ := exists_customType_of_imported h horigin
      exact .imported hbuiltin htarget hsplit (h'.imp And.right And.right)
    | expression modules =>
      have h' : modules ≠ [] ∧ r.target ≠ (ofRun o documents).className n := by
        simpa [importsFor, importFor?, Reference.mentionedModules, horigin] using h'
      obtain ⟨hbuiltin, htarget, hsplit, hmodules⟩ := exists_customType_of_expression h horigin h'.1
      exact .expression hbuiltin htarget hsplit (hmodules ▸ h'.1) h'.2
    | generated =>
      have hgenerates := generates_of_resolveName h (Reference.isGenerated_iff.2 horigin)
      rw [hgenerates.resolveName] at h
      cases h
      exact .generated hgenerates (h'.resolve_left fun h => h.2 rfl).2

end

/-- The annotation of a parent is the class of the entry, on each of its methods, and it is in scope unless the type
loses it. -/
theorem parentInScope_iff {o : Options} {documents : List Document} {document : Document}
    (h : (ofRun o documents).resolverModule document = .ok m) (he : e ∈ m.entries) :
    (ofRun o documents).resolveName e.name (some e.name) = .ok e.model ∧
      (∀ o', ∀ f ∈ e.fields, Layout.methodLine (Naming.methodName f.name) ("self, parent: " ++ e.modelClass)
        f.arguments f.type ∈ Layout.lines o' m) ∧
      ((ofRun o documents).ParentInScope m e ↔ ¬ LosesParent o documents e.name) := by
  obtain ⟨entries, hentries, rfl⟩ := resolverModule_eq_ok_iff.1 h
  obtain ⟨type, -, htype⟩ := exists_of_mem_mapM hentries he
  obtain ⟨hmodel, hclass⟩ := entry_of_resolverEntry htype
  refine ⟨hmodel, fun o' f hf => methodLine_mem_lines he o' hf, ?_⟩
  have hu : ⟨e.model, false⟩ ∈ (Body.resolvers entries).uses := List.mem_flatMap.2 ⟨e, he, List.mem_cons_self⟩
  rw [parentInScope_iff_of_mem_uses rfl hu, losesParent_iff hmodel (ofRun o documents).targets.apiPackage, hclass,
    not_or, not_and, not_and, not_ne_iff]
  exact and_congr (imp_congr_right fun _ => eq_comm) Iff.rfl

/-- A type of the run, and a type with a custom type of its own name. -/
theorem parentInScope_user :
    let o : Options := { Options.unset with customTypes := Table.ofList [("Account", "external.Account")] }
    let document : Document := [.object ⟨"User", none, [], [⟨"id", none, [], .named "ID" false⟩]⟩,
      .object ⟨"Account", none, [], [⟨"id", none, [], .named "ID" false⟩]⟩]
    let s := ofRun o [document]
    ∃ m, s.resolverModule document = .ok m ∧ m.entries.map ResolverEntry.modelClass = ["User", "Account"] ∧
      ∀ e ∈ m.entries, s.ParentInScope m e ∧ ¬ LosesParent o [document] e.name := by
  intro o document s
  obtain ⟨m, hm⟩ : ∃ m, s.resolverModule document = .ok m := exists_eq_ok_of_isSome (by decide +kernel)
  have hall : ∀ m ∈ (s.resolverModule document).toOption,
      m.entries.map ResolverEntry.modelClass = ["User", "Account"] ∧ ∀ e ∈ m.entries, s.ParentInScope m e := by
    decide +kernel
  obtain ⟨hclasses, hscope⟩ := hall m (by rw [hm]; rfl)
  exact ⟨m, hm, hclasses, fun e he => ⟨hscope e he, (parentInScope_iff hm he).2.2.1 (hscope e he)⟩⟩

/-- The parent is annotated with `User` where `Account` is imported; and the import of a class with the name of the
class of all resolvers is left out. -/
theorem parent_out_of_scope :
    (let o : Options := { Options.unset with customTypes := Table.ofList [("User", "external.Account")] }
      let document : Document := [.object ⟨"User", none, [], [⟨"a", none, [], .named "Int" false⟩]⟩]
      let s := ofRun o [document]
      ∃ m ∈ (s.resolverModule document).toOption, m.typeImports ++ m.imports = [⟨"external", some "Account"⟩] ∧
        ∃ e ∈ m.entries, e.modelClass = "User" ∧ e.model.target = "Account" ∧ ¬ s.ParentInScope m e) ∧
    (let o : Options := { Options.unset with modelPackage := some "m", apiPackage := some "a" }
      let document : Document := [.object ⟨"Resolvers", none, [], [⟨"a", none, [], .named "Int" false⟩]⟩]
      let s := ofRun o [document]
      ∃ m ∈ (s.resolverModule document).toOption, m.typeImports ++ m.imports = [] ∧
        ∃ e ∈ m.entries, e.modelClass = "Resolvers" ∧ s.importFor? e.model m.package =
          some ⟨"m.resolvers", some "Resolvers"⟩ ∧ ¬ s.ParentInScope m e) := by
  decide +kernel

end Scope

end SchemaBindings
