import SchemaBindings.Proofs.Meaning
import SchemaBindings.Run

/-!
# Precedence of the sources of a run

A run takes its options from two sources, and the meanings of names from these, from the built-in scalars and from the
documents. For each option and each name the first source that says something decides (`resolveName_precedence`); a
flag that is off and an empty text say something.
-/

namespace SchemaBindings

open Schema

namespace Options

/-! ### Two sources of options -/

/-- The given options, with further ones for what they leave open. -/
def supplemented (given : Options) (further : Option Options) : Options := further.elim given given.combine

/-- An option, from the first source that settles it. -/
def first {α : Type} (given : Options) (further : Option Options) (option : Options → Option α) : Option α :=
  (option given).or (further.bind option)

/-- The options of a run, each from the first source that settles it or else from its default; packages and the parts
added to class names have no default. -/
def settled (given : Options) (further : Option Options) : Options where
  customTypes := (given.supplemented further).customTypes
  requiredValue := (given.first further requiredValue).or (some "Field(...)")
  frozen := (given.first further frozen).or (some false)
  printing := (given.first further printing).or (some false)
  apis := (given.first further apis).or (some true)
  package := given.first further package
  modelPackage := given.first further modelPackage
  apiPackage := given.first further apiPackage
  namePrefix := given.first further namePrefix
  nameSuffix := given.first further nameSuffix

theorem withDefaults_supplemented (given : Options) (further : Option Options) :
    (given.supplemented further).withDefaults = given.settled further := by
  cases further with
  | none => simp [supplemented, settled, first, withDefaults]
  | some further => rfl

theorem find?_supplemented (given : Options) (further : Option Options) (n : String) :
    (given.supplemented further).customTypes.find? n =
      (given.customTypes.find? n).or (further.bind fun o => o.customTypes.find? n) := by
  cases further with
  | none => exact (Option.or_none).symm
  | some further => exact Table.find?_merge ..

end Options

/-- A run takes its options from the request and, where the request names one, from a file. -/
theorem RunRequest.scope_settle (r : RunRequest) (t : FileTree) (directory : Location) (documents : List Document) :
    (r.settle t directory).map (fun j => j.scope documents) =
      (r.optionsFile.mapM (Options.ofFile t directory · r.tools)).map fun further =>
        Scope.ofRun (r.options.supplemented further) documents := by
  unfold RunRequest.settle
  cases r.optionsFile with
  | none => rfl
  | some path =>
    rw [Option.mapM_some]
    dsimp only
    cases Options.ofFile t directory path r.tools <;> rfl

/-! ### Meanings of names -/

/-- What a target says that a name means. -/
def Reference.ofTarget (n target : String) : Reference :=
  match Target.split? target with
  | some (module, imported) => .plain n imported (.imported module)
  | none => .plain n target (.expression (Target.modules target))

namespace Scope

theorem options_ofRun (o : Options) (documents : List Document) :
    (ofRun o documents).targets.options = o.withDefaults := Targets.options_registerScalars ..

/-- The class for a type in a run with options from two sources. -/
def classFrom (given : Options) (further : Option Options) (n : String) : String :=
  if Naming.isRoot n then n
  else (given.first further Options.namePrefix).getD "" ++ n ++ (given.first further Options.nameSuffix).getD ""

theorem className_ofRun (given : Options) (further : Option Options) (documents : List Document) (n : String) :
    (ofRun (given.supplemented further) documents).className n = classFrom given further n := by
  unfold className Targets.modelClassName
  rw [options_ofRun, Options.withDefaults_supplemented]
  rfl

/-- What a name means by each source that may say so, the strongest source first: a built-in scalar, a custom type of
the given options, one of the further options, a scalar of a document, and a type of a document. -/
def meanings (given : Options) (further : Option Options) (documents : List Document) (n : String) :
    List (Option Reference) :=
  [(builtinScalars.lookup n).map fun target => .plain n target .builtin,
    (given.customTypes.find? n).map (.ofTarget n),
    (further.bind fun o => o.customTypes.find? n).map (.ofTarget n),
    if n ∈ scalarNames documents.flatten then some (.ofTarget n Targets.scalarTarget) else none,
    if n ∈ typeNames documents then some (.plain n (classFrom given further n) .generated) else none]

private theorem findSome?_id_cons {α : Type} (a : Option α) (l : List (Option α)) :
    (a :: l).findSome? id = a.or (l.findSome? id) := by
  cases a <;> rfl

/-- Whatever the scope, built-in scalars come before targets and targets before classes. -/
theorem resolveName_eq (s : Scope) (n : String) (context : Option String) :
    s.resolveName n context =
      (((builtinScalars.lookup n).map fun target => Reference.plain n target .builtin).or
        (((s.targets.find? n).map (Reference.ofTarget n)).or
          (if n ∈ s.known then some (.plain n (s.className n) .generated) else none))).elim
        (.error { name := n, context }) .ok := by
  unfold resolveName
  cases builtinScalars.lookup n with
  | some target => rfl
  | none =>
    cases s.targets.find? n with
    | some target =>
      simp only [Option.map_none, Option.map_some, Option.none_or, Option.some_or, Option.elim_some, Reference.ofTarget]
      cases Target.split? target <;> rfl
    | none =>
      by_cases hknown : n ∈ s.known
      · simp [hknown]
      · simp [hknown]

/-- In every run, the first source that says something about a name decides what it means, and a name of which no
source says anything is unknown; the first source that settles an option decides it. The two sources of options are
the request and the file that it names, if any. -/
theorem resolveName_precedence (documents : List Document) :
    (∀ (given : Options) (further : Option Options) (n : String) (context : Option String),
      (ofRun (given.supplemented further) documents).resolveName n context =
        ((meanings given further documents n).findSome? id).elim (.error { name := n, context }) .ok) ∧
    (∀ (given : Options) (further : Option Options),
      (ofRun (given.supplemented further) documents).targets.options = given.settled further) ∧
    (∀ (r : RunRequest) (t : FileTree) (directory : Location),
      (r.settle t directory).map (fun j => j.scope documents) =
        (r.optionsFile.mapM (Options.ofFile t directory · r.tools)).map fun further =>
          ofRun (r.options.supplemented further) documents) := by
  refine ⟨fun given further n context => ?_, fun given further => ?_, fun r t directory => ?_⟩
  · have hknown : n ∈ (ofRun (given.supplemented further) documents).known ↔ n ∈ typeNames documents :=
      mem_known_ofDocuments
    have hscalar : (if n ∈ scalarNames documents.flatten then some Targets.scalarTarget else none).map
          (Reference.ofTarget n) =
        if n ∈ scalarNames documents.flatten then some (Reference.ofTarget n Targets.scalarTarget) else none := by
      split <;> rfl
    rw [resolveName_eq, find?_ofRun, Options.find?_supplemented, className_ofRun, if_congr hknown rfl rfl,
      Option.map_or, Option.map_or, hscalar, meanings]
    simp only [findSome?_id_cons, List.findSome?_nil, Option.or_none, Option.or_assoc]
  · rw [options_ofRun, Options.withDefaults_supplemented]
  · exact r.scope_settle t directory documents

end Scope

end SchemaBindings
