import SchemaBindings.Proofs.ModuleImports
import SchemaBindings.Proofs.PackageFiles
import SchemaBindings.Proofs.Precedence
import SchemaBindings.Proofs.UsableNames

/-!
# Import statements for classes

The module of a class has the name of the class in snake case, and nothing keeps this from being a reserved word. The
other parts of an import do not go wrong: the dots, the parts of a package, and the class itself. So the import of a
class of the run can stand in a module exactly if the type is not called like a reserved word that is capitalized or in
capitals (`legal_import_iff`).
-/

namespace SchemaBindings

open Schema

/-! ### Reserved words in other cases -/

namespace Naming

/-- Is the text an identifier that is not reserved? -/
def IsPlain (name : String) : Prop := Text.isIdentifier name.toList = true ∧ isKeyword name = false

instance (name : String) : Decidable (IsPlain name) := inferInstanceAs (Decidable (_ ∧ _))

/-- The text in capitals. -/
def inCapitals (name : String) : String := String.ofList (Text.upper name.toList)

/-- Is the text a reserved word of small letters that is capitalized or in capitals? -/
def IsCasedKeyword (name : String) : Prop :=
  ∃ word ∈ keywords, snakeCase word = word ∧ (name = capitalize word ∨ name = inCapitals word)

instance (name : String) : Decidable (IsCasedKeyword name) :=
  inferInstanceAs (Decidable (∃ word ∈ keywords, _ ∧ _))

private theorem isKeyword_iff {name : String} : isKeyword name = true ↔ name ∈ keywords := by
  rw [isKeyword, List.contains_eq_mem, decide_eq_true_iff]

/-- Letters between which the rule puts no low line are small letters, or capitals after a capital. -/
private theorem cases_of_markAfter {a : Char} {cs : List Char}
    (h : ∀ c ∈ a :: markAfter a cs, c.isUpper = true ∨ c.isLower = true) :
    markAfter a cs = cs ∧ ((∀ c ∈ cs, c.isLower = true) ∨ (a.isUpper = true ∧ ∀ c ∈ cs, c.isUpper = true)) := by
  induction cs generalizing a with
  | nil => exact ⟨rfl, .inl nofun⟩
  | cons b cs ih =>
    obtain ⟨ha, hmarked⟩ := List.forall_mem_cons.1 h
    rw [markAfter_cons] at hmarked ⊢
    have hstarts : startsWord a b cs = false := by
      rw [← Bool.not_eq_true]
      intro hs
      exact absurd (hmarked '_' (by simp [hs])) (by decide)
    simp only [hstarts, Bool.false_eq_true, if_false, List.singleton_append] at hmarked ⊢
    obtain ⟨hafter, hcases⟩ := ih hmarked
    refine ⟨by rw [hafter], ?_⟩
    rcases hmarked b List.mem_cons_self with hb | hb
    · -- before the capital `b` stands a capital, and after it no small letter
      simp only [startsWord, hb, Bool.true_and, Bool.or_eq_false_iff, Bool.and_eq_false_iff] at hstarts
      obtain ⟨⟨hsmall, -⟩, hnext⟩ := hstarts
      have ha : a.isUpper = true := ha.resolve_right (by simp [hsmall])
      have hline : (a != '\n') = true := by
        rw [bne_iff_ne]
        rintro rfl
        exact absurd ha (by decide)
      refine .inr ⟨ha, List.forall_mem_cons.2 ⟨hb, ?_⟩⟩
      rcases hcases with hcases | ⟨-, hcases⟩
      · cases cs with
        | nil => exact nofun
        | cons c cs =>
          have hc : startsSmall (c :: cs) = false := hnext.resolve_left (by simp [hline])
          exact absurd (hcases c List.mem_cons_self) (by simpa [startsSmall] using hc)
      · exact hcases
    · refine .inl (List.forall_mem_cons.2 ⟨hb, hcases.resolve_right fun hupper => ?_⟩)
      exact absurd hupper.1 (by simp [not_isUpper_of_isLower hb])

private theorem toLower_of_isLower {c : Char} (h : c.isLower = true) : c.toLower = c := by
  have hname : Text.isNameChar c = true := isNameChar_iff.2 (.inr (.inl h))
  exact of_isNameChar (P := fun c => c.isLower = true → c.toLower = c) (by decide +kernel) hname h

private theorem map_toLower_of_isLower {cs : List Char} (h : ∀ c ∈ cs, c.isLower = true) : cs.map Char.toLower = cs :=
  (List.map_congr_left fun c hc => toLower_of_isLower (h c hc)).trans cs.map_id

private theorem upperOf_toLower {c : Char} (h : c.isUpper = true) : Text.upperOf c.toLower = [c] := by
  have hname : Text.isNameChar c = true := isNameChar_iff.2 (.inl h)
  exact of_isNameChar (P := fun c => c.isUpper = true → Text.upperOf c.toLower = [c]) (by decide +kernel) hname h

private theorem upper_map_toLower {cs : List Char} (h : ∀ c ∈ cs, c.isUpper = true) :
    Text.upper (cs.map Char.toLower) = cs := by
  induction cs with
  | nil => rfl
  | cons c cs ih =>
    obtain ⟨hc, hcs⟩ := List.forall_mem_cons.1 h
    rw [List.map_cons, Text.upper, List.flatMap_cons, upperOf_toLower hc]
    exact congrArg (c :: ·) (ih hcs)

private theorem isUpper_toLower {c : Char} (h : Text.isNameChar c = true) : c.toLower.isUpper = false :=
  of_isNameChar (P := fun c => c.toLower.isUpper = false) (by decide +kernel) h

private theorem isLetter_of_isLower_toLower {c : Char} (h : Text.isNameChar c = true)
    (hlower : c.toLower.isLower = true) :
    c.isUpper = true ∨ c.isLower = true :=
  of_isNameChar (P := fun c => c.toLower.isLower = true → c.isUpper = true ∨ c.isLower = true) (by decide +kernel) h
    hlower

/-- The reserved words without capitals are words of small letters, which snake case keeps. -/
private theorem small_of_mem_keywords {word : String} (h : word ∈ keywords)
    (hcapitals : ∀ c ∈ word.toList, c.isUpper = false) :
    (∀ c ∈ word.toList, c.isLower = true) ∧ snakeCase word = word := by
  have hall : ∀ word ∈ keywords, word.toList.all (fun c => !c.isUpper) = true →
      word.toList.all Char.isLower = true ∧ snakeCase word = word := by
    decide +kernel
  obtain ⟨hsmall, hsnake⟩ := hall word h (List.all_eq_true.2 fun c hc => by simp [hcapitals c hc])
  exact ⟨List.all_eq_true.1 hsmall, hsnake⟩

/-- A word whose snake case is reserved is that reserved word, in small letters, capitalized or in capitals. -/
theorem isKeyword_snakeCase_iff {name : String} (h : IsWord name) :
    isKeyword (snakeCase name) = true ↔ isKeyword name = true ∧ snakeCase name = name ∨ IsCasedKeyword name := by
  constructor
  · intro hkeyword
    obtain ⟨a, cs, hcs, hsnake, hmarked⟩ := h.exists_snakeCase
    have hword := isKeyword_iff.1 hkeyword
    have hcapitals : ∀ c ∈ (snakeCase name).toList, c.isUpper = false := by
      rw [hsnake]
      intro c hc
      obtain ⟨x, hx, rfl⟩ := List.mem_map.1 hc
      exact isUpper_toLower (hmarked x hx)
    obtain ⟨hsmall, hkept⟩ := small_of_mem_keywords hword hcapitals
    rw [hsnake, List.forall_mem_map] at hsmall
    have hletters : ∀ c ∈ a :: markAfter a cs, c.isUpper = true ∨ c.isLower = true := fun c hc =>
      isLetter_of_isLower_toLower (hmarked c hc) (hsmall c hc)
    obtain ⟨hafter, hcases⟩ := cases_of_markAfter hletters
    rw [hafter] at hsnake
    rcases hcases with hcases | ⟨ha, hcases⟩
    · rw [List.map_cons, map_toLower_of_isLower hcases] at hsnake
      rcases hletters a List.mem_cons_self with ha | ha
      · refine .inr ⟨_, hword, hkept, .inl ?_⟩
        rw [capitalize, hsnake, ← String.toList_inj, String.toList_ofList, upperOf_toLower ha, hcs]
        rfl
      · have hsame : snakeCase name = name := by
          rw [← String.toList_inj, hsnake, toLower_of_isLower ha, hcs]
        exact .inl ⟨hsame ▸ hkeyword, hsame⟩
    · refine .inr ⟨_, hword, hkept, .inr ?_⟩
      rw [inCapitals, hsnake, ← String.toList_inj, String.toList_ofList,
        upper_map_toLower (List.forall_mem_cons.2 ⟨ha, hcases⟩), hcs]
  · rintro (⟨hkeyword, hkept⟩ | ⟨word, hword, hkept, hname⟩)
    · rw [hkept, hkeyword]
    · have hall : ∀ word ∈ keywords, snakeCase word = word →
          snakeCase (capitalize word) = word ∧ snakeCase (inCapitals word) = word := by
        decide +kernel
      obtain ⟨hcapitalized, hcapitals⟩ := hall word hword hkept
      rcases hname with rfl | rfl
      · rw [hcapitalized, isKeyword_iff]
        exact hword
      · rw [hcapitals, isKeyword_iff]
        exact hword

/-- A plain word stays an identifier in snake case, but it may become reserved. -/
theorem isPlain_moduleName_iff {name : String} (h : IsWord name) (hplain : IsPlain name) :
    IsPlain (moduleName name) ↔ ¬ IsCasedKeyword name := by
  have hidentifier : Text.isIdentifier (snakeCase name).toList = true := by
    obtain ⟨a, cs, hcs, hsnake, hmarked⟩ := h.exists_snakeCase
    have hdigit : a.toLower.isDigit = a.isDigit :=
      of_isNameChar (P := fun c => c.toLower.isDigit = c.isDigit) (by decide +kernel) (hmarked a List.mem_cons_self)
    have hstart := h.isIdentifier_iff.1 hplain.1
    rw [opensWith, hcs] at hstart
    rw [h.snakeCase.isIdentifier_iff, opensWith, hsnake]
    exact hdigit.trans hstart
  rw [moduleName, IsPlain, ← Bool.not_eq_true, isKeyword_snakeCase_iff h, hplain.2]
  simp [hidentifier]

end Naming

/-! ### Parts of imports -/

/-- Is the package the topmost one, or one with a path of plain names? -/
def IsPackage (package : String) : Prop := package = "" ∨ ∀ part ∈ Text.split '.' package, Naming.IsPlain part

instance (package : String) : Decidable (IsPackage package) := inferInstanceAs (Decidable (_ ∨ _))

namespace Import

/-- The names in the path to the module, after the dots at the start. -/
def parts (i : Import) : List String := Text.split '.' (String.ofList (i.module.toList.dropWhile (· == '.')))

/-- Can the statement stand in a module? The names in the path and the name that is imported must be plain. -/
def IsLegal (i : Import) : Prop := (∀ part ∈ i.parts, Naming.IsPlain part) ∧ ∀ name ∈ i.name, Naming.IsPlain name

instance (i : Import) : Decidable i.IsLegal := inferInstanceAs (Decidable (_ ∧ _))

private theorem dot_not_mem_of_isWord {name : String} (h : Naming.IsWord name) : '.' ∉ name.toList :=
  fun hmem => absurd (h.2 '.' hmem) (by decide)

private theorem dropWhile_of_not_mem {cs : List Char} (h : '.' ∉ cs) : cs.dropWhile (· == '.') = cs := by
  cases cs with
  | nil => rfl
  | cons c cs =>
    rw [List.mem_cons, not_or] at h
    exact List.dropWhile_cons_of_neg (by simpa using Ne.symm h.1)

/-- Dots before the name of a module add no part. -/
theorem parts_dots_append {dots : List Char} (h : ∀ c ∈ dots, (c == '.') = true) {module : String}
    (hmodule : '.' ∉ module.toList) (name : Option String) :
    parts { module := String.ofList dots ++ module, name } = [module] := by
  have hlist : (String.ofList dots ++ module).toList = dots ++ module.toList := by simp
  rw [parts, hlist, List.dropWhile_append_of_pos h, dropWhile_of_not_mem hmodule, String.ofList_toList,
    Text.split_of_not_mem hmodule]

/-- A package adds its names before that of a module. -/
theorem parts_package_append (package : String) {module : String} (hmodule : '.' ∉ module.toList)
    (name : Option String) :
    parts { module := package ++ "." ++ module, name } = Package.names package ++ [module] := by
  have hlist : (package ++ "." ++ module).toList = package.toList ++ '.' :: module.toList := by simp
  rw [parts, hlist, List.dropWhile_append, Package.names]
  simp only [List.isEmpty_iff]
  split
  · rw [List.dropWhile_cons_of_pos (by rfl), dropWhile_of_not_mem hmodule, String.ofList_toList,
      Text.split_of_not_mem hmodule, List.nil_append]
  · rw [Text.split, String.toList_ofList, Text.parts_append_separator, List.map_append,
      Text.parts_of_not_mem hmodule, List.map_singleton, String.ofList_toList, Text.split, String.toList_ofList]

/-- The path to a module has the name of the module last, and before it at most the parts of the package. -/
theorem isLegal_path_iff {toPackage module name : String} (hpackage : IsPackage toPackage)
    (hmodule : Naming.IsWord module) (hname : Naming.IsPlain name) (fromPackage : String) :
    IsLegal { module := path fromPackage toPackage module, name := some name } ↔ Naming.IsPlain module := by
  have hdot := dot_not_mem_of_isWord hmodule
  have hlegal (i : Import) (hi : i.name = some name) : i.IsLegal ↔ ∀ part ∈ i.parts, Naming.IsPlain part := by
    simp [IsLegal, hi, hname]
  rw [hlegal _ rfl, path]
  split
  · rw [show "." = String.ofList ['.'] from rfl, parts_dots_append (by simp) hdot]
    simp
  · split
    · next hne =>
      have hne : toPackage ≠ "" := by simpa using hne
      have hparts := hpackage.resolve_left hne
      rw [parts_package_append toPackage hdot]
      constructor
      · exact fun h => h module (List.mem_append_right _ (List.mem_singleton.2 rfl))
      · intro h part hpart
        rcases List.mem_append.1 hpart with hpart | hpart
        · exact hparts part ((Package.names_suffix toPackage).subset hpart)
        · exact List.mem_singleton.1 hpart ▸ h
    · rw [parts_dots_append (by simp) hdot]
      simp

end Import

/-! ### Imports of classes of the run -/

private theorem isPackage_firstNonempty {choices : List (Option String)}
    (h : ∀ package ∈ choices, ∀ path ∈ package, IsPackage path) : IsPackage (Options.firstNonempty choices) := by
  rw [Options.firstNonempty]
  cases hfirst : (choices.filterMap id).find? (!·.isEmpty) with
  | none => exact .inl rfl
  | some path => exact h _ (by simpa using List.mem_of_find?_eq_some hfirst) path rfl

namespace Scope

private theorem isPackage_packageOf {o : Options} {documents : List Document}
    (h : ∀ package ∈ [o.package, o.modelPackage, o.apiPackage], ∀ path ∈ package, IsPackage path) (name : String) :
    IsPackage ((ofRun o documents).packageOf name) := by
  rw [packageOf, Targets.apiPackage, Targets.modelPackage, options_ofRun]
  split
  · refine isPackage_firstNonempty fun package hpackage => h package ?_
    rcases List.mem_pair.1 hpackage with rfl | rfl <;> simp [Options.withDefaults]
  · refine isPackage_firstNonempty fun package hpackage => h package ?_
    rcases List.mem_pair.1 hpackage with rfl | rfl <;> simp [Options.withDefaults]

private theorem className_of_no_affixes {o : Options} (hbefore : o.namePrefix.getD "" = "")
    (hafter : o.nameSuffix.getD "" = "") (documents : List Document) (name : String) :
    (ofRun o documents).className name = name := by
  have hmodel : (ofRun o documents).targets.modelClassName name = name := by
    rw [Targets.modelClassName, options_ofRun, Options.withDefaults, hbefore, hafter]
    simp
  rw [className, hmodel, ite_self]

/-- In a run whose types have plain names, whose packages have plain paths, and which adds nothing to the names of
classes, the import for a class of the run can stand in a module exactly if the type is not called like a reserved word
that is capitalized or in capitals. -/
theorem legal_import_iff {o : Options} {documents : List Document}
    (hnames : ∀ name ∈ typeNames documents, Naming.IsWord name ∧ Naming.IsPlain name)
    (hpackages : ∀ package ∈ [o.package, o.modelPackage, o.apiPackage], ∀ path ∈ package, IsPackage path)
    (hbefore : o.namePrefix.getD "" = "") (hafter : o.nameSuffix.getD "" = "") {r : Reference}
    (hr : (ofRun o documents).Resolves r) (hgenerated : r.isGenerated = true) (package : String) :
    ∃ i, (ofRun o documents).importFor? r package = some i ∧ (i.IsLegal ↔ ¬ Naming.IsCasedKeyword r.schemaName) := by
  obtain ⟨-, -, -, hknown⟩ := generates_ofRun.1 (hr.generates hgenerated)
  obtain ⟨hword, hplain⟩ := hnames _ hknown
  have htarget : r.target = r.schemaName :=
    (hr.target_eq hgenerated).trans (className_of_no_affixes hbefore hafter documents _)
  refine ⟨_, importFor?_of_generated _ package (Reference.isGenerated_iff.1 hgenerated), ?_⟩
  rw [htarget, Naming.moduleName, Import.isLegal_path_iff (isPackage_packageOf hpackages _) hword.snakeCase hplain]
  exact Naming.isPlain_moduleName_iff hword hplain

/-- A type whose name begins with a reserved word, in a package that is named from outside. -/
theorem legal_import_class_name :
    let o : Options := { Options.unset with modelPackage := some "app.models" }
    let documents : List Document := [[.enumeration "ClassName" none []]]
    let s := ofRun o documents
    ∃ r, s.resolveName "ClassName" none = .ok r ∧ r.isGenerated = true ∧
      ∃ i, s.importFor? r "app.api" = some i ∧ i.statement = "from app.models.class_name import ClassName" ∧
        i.IsLegal := by
  intro o documents s
  have hnames : ∀ name ∈ typeNames documents, Naming.IsWord name ∧ Naming.IsPlain name := by decide +kernel
  have hpackages : ∀ package ∈ [o.package, o.modelPackage, o.apiPackage], ∀ path ∈ package, IsPackage path := by
    decide +kernel
  have hresolved : s.resolveName "ClassName" none = .ok (.plain "ClassName" "ClassName" .generated) := by
    decide +kernel
  obtain ⟨i, hi, hlegal⟩ := legal_import_iff hnames hpackages rfl rfl (resolves_of_resolveName hresolved) rfl "app.api"
  have hstatement : i.statement = "from app.models.class_name import ClassName" := by
    cases hi
    decide +kernel
  exact ⟨_, hresolved, rfl, i, hi, hstatement, hlegal.2 (by decide +kernel)⟩

/-- The module of the type `Class` has a reserved word for a name, so no import of its class can stand in a module. -/
theorem illegal_import_class :
    let documents : List Document := [[.enumeration "Class" none []]]
    let s := ofRun .unset documents
    (∀ name ∈ typeNames documents, Naming.IsWord name ∧ Naming.IsPlain name) ∧
      s.resolveName "Class" none = .ok (.plain "Class" "Class" .generated) ∧
      ∃ i ∈ s.importFor? (.plain "Class" "Class" .generated) "",
        i.statement = "from .class import Class" ∧ ¬ i.IsLegal := by
  decide +kernel

end Scope

end SchemaBindings
