import SchemaBindings.Import
import SchemaBindings.Naming
import SchemaBindings.Reachable
import SchemaBindings.Reference
import SchemaBindings.Target
import SchemaBindings.Targets

/-!
# The scope of a run

The scope knows every name that a reference may use: the built-in scalars, the targets of the run, the types that the
documents define, and which interfaces extend which.
-/

namespace SchemaBindings

/-- A reference to a type that is defined nowhere; `context` names the place of the reference. -/
structure UnknownType where
  name : String
  context : Option String
  deriving DecidableEq, Repr, Inhabited

/-- The wording of the error; parts that are absent or empty are left out. -/
def UnknownType.message (e : UnknownType) (schemaPath : Option String) : String :=
  "Unknown type '" ++ e.name ++ "'" ++ part " referenced by '" e.context "'" ++ part " in " schemaPath ""
where
  part (before : String) (text : Option String) (after : String) : String :=
    match text with
    | none | some "" => ""
    | some text => before ++ text ++ after

/-- What the names in the documents of a run mean. -/
structure Scope where
  targets : Targets
  /-- The names of the defined types, in ascending order. -/
  known : List String
  /-- The interfaces that each interface says it implements. -/
  interfaces : Table String (List String)
  deriving Inhabited

/-- The built-in scalars and their targets. -/
def builtinScalars : List (String × String) :=
  [("Int", "int"), ("Float", "float"), ("String", "str"), ("Boolean", "bool"), ("ID", "str")]

namespace Scope

/-- The scope of a run over some documents. -/
def ofDocuments (targets : Targets) (documents : List Schema.Document) : Scope :=
  let definitions := documents.flatten
  { targets
    known := ascendingTexts (definitions.filterMap Schema.Definition.typeName?)
    interfaces := Table.ofList (definitions.filterMap fun
      | .interface body => some (body.name, body.interfaces)
      | _ => none) }

/-! ### Classes and packages -/

/-- The class that is generated for a type. -/
def className (s : Scope) (name : String) : String :=
  if Naming.isRoot name then name else s.targets.modelClassName name

/-- The package of the class that is generated for a type. -/
def packageOf (s : Scope) (name : String) : String :=
  if Naming.isRoot name then s.targets.apiPackage else s.targets.modelPackage

/-! ### References -/

/-- What a name means: a built-in scalar, else a target of the run, else a class to be generated. -/
def resolveName (s : Scope) (name : String) (context : Option String) : Except UnknownType Reference :=
  match builtinScalars.lookup name with
  | some target => .ok (.plain name target .builtin)
  | none =>
    match s.targets.find? name with
    | some target =>
      match Target.split? target with
      | some (module, imported) => .ok (.plain name imported (.imported module))
      | none => .ok (.plain name target (.expression (Target.modules target)))
    | none =>
      if s.known.contains name then .ok (.plain name (s.className name) .generated)
      else .error { name, context }

/-- What a type reference means. -/
def resolve (s : Scope) (type : Schema.TypeExpr) (context : Option String) : Except UnknownType Reference := do
  return (← s.resolveName type.name context).around type

/-- The import that a module of a package needs for a reference. Modules that an expression mentions are apart. -/
def importFor? (s : Scope) (r : Reference) (fromPackage : String) : Option Import :=
  match r.origin with
  | .imported module => some { module, name := some r.target }
  | .generated => some
      { module := Import.path fromPackage (s.packageOf r.schemaName) (Naming.moduleName r.target)
        name := some r.target }
  | .builtin | .expression _ => none

/-! ### Interfaces -/

/-- Every interface that an interface extends, directly or not. -/
def ancestors (s : Scope) (name : String) : List String :=
  reachable s.interfaces name

end Scope

end SchemaBindings
