import SchemaBindings.Schema.Document

/-!
# Resolved references

A resolved reference says what a type reference of a schema means in the generated code: the text that names the
type, where this text comes from, and on each level whether null is refused.
-/

namespace SchemaBindings

/-- Where the target of a reference comes from. -/
inductive Origin
  /-- A scalar of the output language. -/
  | builtin
  /-- A class that the run generates. -/
  | generated
  /-- A name to be imported from a module. -/
  | imported (module : String)
  /-- An expression that mentions some modules. -/
  | expression (modules : List String)
  deriving DecidableEq, Repr, Inhabited

/-- A resolved reference; `itemsRequired` has an entry for each level of lists, the outermost first. -/
structure Reference where
  schemaName : String
  target : String
  origin : Origin
  required : Bool
  itemsRequired : List Bool
  deriving DecidableEq, Repr, Inhabited

namespace Schema.TypeExpr

/-- The name inside the lists. -/
def name : TypeExpr → String
  | named name _ => name
  | list item _ => item.name

/-- Is null refused? -/
def required : TypeExpr → Bool
  | named _ required => required
  | list _ required => required

/-- For each level of lists, the outermost first: is null refused as an item? -/
def itemsRequired : TypeExpr → List Bool
  | named _ _ => []
  | list item _ => item.required :: item.itemsRequired

end Schema.TypeExpr

namespace Reference

/-- A reference by name, nullable and without lists. -/
def plain (schemaName target : String) (origin : Origin) : Reference :=
  { schemaName, target, origin, required := false, itemsRequired := [] }

/-- The levels of a type around a reference by name. -/
def around (r : Reference) (type : Schema.TypeExpr) : Reference :=
  { r with required := type.required, itemsRequired := type.itemsRequired }

/-- Is the target a class that the run generates? -/
def isGenerated (r : Reference) : Bool := r.origin == .generated

/-- The module to import the target from. -/
def importModule? (r : Reference) : Option String :=
  match r.origin with
  | .imported module => some module
  | _ => none

/-- The modules that the target mentions. -/
def mentionedModules (r : Reference) : List String :=
  match r.origin with
  | .expression modules => modules
  | _ => []

/-- Does the innermost list refuse null as an item? -/
def lastItemRequired (r : Reference) : Bool := r.itemsRequired.getLastD false

/-- A type and, where it is not required, the type of the null value. -/
def optionalText (required : Bool) (text : String) : String := if required then text else text ++ " | None"

/-- A type inside lists. -/
def listText : List Bool → String → String
  | [], text => text
  | itemRequired :: items, text => "list[" ++ optionalText itemRequired (listText items text) ++ "]"

/-- The annotation that the reference is written as. -/
def annotation (r : Reference) : String := optionalText r.required (listText r.itemsRequired r.target)

end Reference

end SchemaBindings
