import SchemaBindings.Import
import SchemaBindings.Naming
import SchemaBindings.Reference
import SchemaBindings.Scope

/-!
# Generated modules

A module describes one generated file: its class, its package, what the class holds and what it imports. The imports
follow from the references that the class uses: bases and names from foreign modules are needed at run time, other
classes only by annotations.
-/

namespace SchemaBindings

/-! ### Parts of a class -/

/-- A parameter of a generated method. -/
structure Argument where
  name : String
  parameter : String
  type : Reference
  default : Option String
  description : Option String
  deriving DecidableEq, Repr, Inhabited

namespace Argument

/-- May callers leave the argument out? -/
def isOptional (a : Argument) : Bool := !a.type.required || a.default.isSome

/-- The annotation of the parameter: one that may be left out may also be null. -/
def annotation (a : Argument) : String :=
  if a.type.required && a.isOptional then a.type.annotation ++ " | None" else a.type.annotation

end Argument

/-- A field of a generated class; `identifier` is its name there. -/
structure Field where
  name : String
  identifier : String
  type : Reference
  arguments : List Argument
  description : Option String
  deriving DecidableEq, Repr, Inhabited

/-- Does the identifier differ from the name? -/
def Field.isRenamed (f : Field) : Bool := f.identifier != f.name

/-- A method for an operation. -/
structure Operation where
  name : String
  method : String
  returnType : Reference
  arguments : List Argument
  description : Option String
  deriving DecidableEq, Repr, Inhabited

/-- The resolvers of one object type or interface. -/
structure ResolverEntry where
  name : String
  /-- The class of the parent that each resolver takes. -/
  modelClass : String
  resolverClass : String
  accessor : String
  /-- What the name of the type refers to. -/
  model : Reference
  fields : List Field
  isInterface : Bool
  deriving DecidableEq, Repr, Inhabited

/-- What a class with fields stands for. -/
inductive RecordKind
  | object | interface | input
  deriving DecidableEq, Repr, Inhabited

/-- What the class of a module holds. -/
inductive Body
  /-- Fields, and the classes it extends. -/
  | record (kind : RecordKind) (fields : List Field) (bases : List Reference)
  | enumeration (values : List String)
  | union (members : List String)
  /-- Operations of a root; `whole` tells that they are all of them. -/
  | operations (root : String) (whole : Bool) (methods : List Operation)
  | resolvers (entries : List ResolverEntry)
  deriving DecidableEq, Repr, Inhabited

/-- The word for the operations of a root. -/
def operationKind (root : String) : String := String.ofList (Text.lower root.toList)

/-- The bases by name, each once. -/
def baseNames (bases : List Reference) : List String := (bases.map Reference.target).eraseDups

/-! ### Uses of references -/

/-- A reference that a class uses, as a base or in an annotation. -/
structure Use where
  reference : Reference
  isBase : Bool
  deriving DecidableEq, Repr, Inhabited

namespace Use

/-- The modules that the reference mentions, imported whole. -/
def wholeImports (u : Use) : List Import := u.reference.mentionedModules.map fun module => { module, name := none }

/-- Is the import of the reference needed at run time? -/
def atRunTime (u : Use) : Bool := u.isBase || u.reference.importModule?.isSome

/-- The import of the reference, unless it names the class itself. -/
def import? (s : Scope) (package className : String) (u : Use) : Option Import :=
  (s.importFor? u.reference package).filter fun i => i.name != some className

end Use

/-- The references in arguments. -/
def argumentUses (arguments : List Argument) : List Use := arguments.map fun a => ⟨a.type, false⟩

/-- The references in fields and their arguments. -/
def fieldUses (fields : List Field) : List Use := fields.flatMap fun f => ⟨f.type, false⟩ :: argumentUses f.arguments

/-- The references in operations and their arguments. -/
def operationUses (operations : List Operation) : List Use :=
  operations.flatMap fun o => ⟨o.returnType, false⟩ :: argumentUses o.arguments

/-- The references of a class. -/
def Body.uses : Body → List Use
  | record _ fields bases => fieldUses fields ++ bases.map fun r => ⟨r, true⟩
  | enumeration _ | union _ => []
  | operations _ _ methods => operationUses methods
  | resolvers entries => entries.flatMap fun e => ⟨e.model, false⟩ :: fieldUses e.fields

/-- The imports that uses need at run time. -/
def runtimeImports (s : Scope) (package className : String) (uses : List Use) : List Import :=
  Import.sorted (uses.flatMap fun u =>
    u.wholeImports ++ if u.atRunTime then (u.import? s package className).toList else [])

/-- The imports that only annotations need. -/
def annotationImports (s : Scope) (package className : String) (uses : List Use) : List Import :=
  let runtime := runtimeImports s package className uses
  Import.sorted ((uses.flatMap fun u =>
    if u.atRunTime then [] else (u.import? s package className).toList).filter (!runtime.contains ·))

/-! ### Modules -/

/-- A generated module. -/
structure Module where
  className : String
  package : String
  description : Option String
  body : Body
  imports : List Import
  typeImports : List Import
  deriving DecidableEq, Repr, Inhabited

namespace Module

/-- The module of a class in a package, with the imports that the class needs. -/
def assemble (s : Scope) (package className : String) (description : Option String) (body : Body) : Module :=
  { className, package, description, body
    imports := runtimeImports s package className body.uses
    typeImports := annotationImports s package className body.uses }

/-- The name of the module. -/
def name (m : Module) : String := Naming.moduleName m.className

/-- The path of the file below the output directory; empty parts of the package are left out. -/
def relativePath (m : Module) : String :=
  "/".intercalate ((Text.split '.' m.package).filter (!·.isEmpty) ++ [m.name ++ ".py"])

/-- The layout of the module's text. -/
def layoutName (m : Module) : String :=
  match m.body with
  | .record .interface .. => "interface"
  | .record .. => "type"
  | .enumeration _ => "enum"
  | .union _ => "union"
  | .operations .. => "operation"
  | .resolvers _ => "resolver"

end Module

end SchemaBindings
