/-!
# Schema documents

A document is a list of definitions. Of each definition is kept what describes types: names, descriptions, fields,
members. Directives, directive definitions, extensions and operations are known by their kind and name only.
-/

namespace SchemaBindings.Schema

/-! ### Types and values -/

/-- A reference to a type: a name, or a list of items. Each level says whether it refuses null (`!`). -/
inductive TypeExpr
  | named (name : String) (required : Bool)
  | list (item : TypeExpr) (required : Bool)
  deriving DecidableEq, Repr, Inhabited

/-- A value as it is written; strings hold what they denote, and `block` tells their form. -/
inductive Value
  | int (text : String)
  | float (text : String)
  | string (value : String) (block : Bool)
  | boolean (value : Bool)
  | null
  | enumeration (name : String)
  | list (items : List Value)
  | object (fields : List (String × Value))
  | variable (name : String)
  deriving Repr, Inhabited

/-! ### Definitions -/

/-- An argument of a field, or a field of an input object. -/
structure InputValue where
  name : String
  description : Option String
  type : TypeExpr
  default : Option Value
  deriving Repr, Inhabited

/-- A field of an object type or interface. -/
structure FieldDefinition where
  name : String
  description : Option String
  arguments : List InputValue
  type : TypeExpr
  deriving Repr, Inhabited

/-- An object type or interface. -/
structure FieldedDefinition where
  name : String
  description : Option String
  interfaces : List String
  fields : List FieldDefinition
  deriving Repr, Inhabited

/-- What an extension extends. -/
inductive Extended
  | schema | scalar | object | interface | union | enumeration | input | directive
  deriving DecidableEq, Repr, Inhabited

/-- A definition of a document. -/
inductive Definition
  | scalar (name : String)
  | object (body : FieldedDefinition)
  | interface (body : FieldedDefinition)
  | union (name : String) (description : Option String) (members : List String)
  | enumeration (name : String) (description : Option String) (values : List String)
  | input (name : String) (description : Option String) (fields : List InputValue)
  | schema
  | directive (name : String)
  | extension (extended : Extended) (name : Option String)
  | operation (name : Option String)
  | fragment (name : String)
  deriving Repr, Inhabited

/-- The definitions of one schema text, in order. -/
abbrev Document := List Definition

/-! ### Kind and name -/

/-- The kind of an extension. -/
def Extended.kind : Extended → String
  | schema => "schema_extension"
  | scalar => "scalar_type_extension"
  | object => "object_type_extension"
  | interface => "interface_type_extension"
  | union => "union_type_extension"
  | enumeration => "enum_type_extension"
  | input => "input_object_type_extension"
  | directive => "directive_extension"

/-- The kind of a definition. -/
def Definition.kind : Definition → String
  | scalar _ => "scalar_type_definition"
  | object _ => "object_type_definition"
  | interface _ => "interface_type_definition"
  | union .. => "union_type_definition"
  | enumeration .. => "enum_type_definition"
  | input .. => "input_object_type_definition"
  | schema => "schema_definition"
  | directive _ => "directive_definition"
  | extension extended _ => extended.kind
  | operation _ => "operation_definition"
  | fragment _ => "fragment_definition"

/-- The name of a definition. Schemas and their extensions have none, and operations need none. -/
def Definition.name? : Definition → Option String
  | scalar name => some name
  | object body => some body.name
  | interface body => some body.name
  | union name .. => some name
  | enumeration name .. => some name
  | input name .. => some name
  | schema => none
  | directive name => some name
  | extension _ name => name
  | operation name => name
  | fragment name => some name

/-- The name of the type that a definition introduces. -/
def Definition.typeName? : Definition → Option String
  | scalar name => some name
  | object body => some body.name
  | interface body => some body.name
  | union name .. => some name
  | enumeration name .. => some name
  | input name .. => some name
  | _ => none

end SchemaBindings.Schema
