import SchemaBindings.Naming
import SchemaBindings.Schema.Document

/-!
# Categories of definitions

The category of a definition says which kind of module it yields. Scalars, directives, schemas, extensions and
operations of a client yield none.
-/

namespace SchemaBindings

/-- The kind of module that a definition yields. -/
inductive Category
  | operation | type | interface | enumeration | input | union | unsupported
  deriving DecidableEq, Repr, Inhabited

/-- The name of a category. -/
def Category.text : Category → String
  | operation => "operation"
  | type => "type"
  | interface => "interface"
  | enumeration => "enum"
  | input => "input"
  | union => "union"
  | unsupported => "unsupported"

/-- An object type with the name of an operation root holds operations; any other describes data. -/
def Schema.Definition.category : Schema.Definition → Category
  | object body => if Naming.isRoot body.name then .operation else .type
  | interface _ => .interface
  | enumeration .. => .enumeration
  | input .. => .input
  | union .. => .union
  | _ => .unsupported

/-- A definition that yields no module, by its kind. -/
structure UnsupportedDefinition where
  kind : String
  deriving DecidableEq, Repr, Inhabited

/-- The wording of the error. -/
def UnsupportedDefinition.message (e : UnsupportedDefinition) : String :=
  "Unsupported GraphQL definition: " ++ e.kind

/-- The category of a definition that must yield a module. -/
def Schema.Definition.category? (d : Schema.Definition) : Except UnsupportedDefinition Category :=
  match d.category with
  | .unsupported => .error ⟨d.kind⟩
  | category => .ok category

end SchemaBindings
