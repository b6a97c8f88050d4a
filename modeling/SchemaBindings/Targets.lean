import SchemaBindings.Options
import SchemaBindings.Schema.Document

/-!
# Targets of a run

The targets of a run are its options, with their defaults, and a table of target types. The table starts with the
custom types; scalars that the schemas define are added as texts unless they have a target.
-/

namespace SchemaBindings

/-- The settled options of a run and the targets of schema types. -/
structure Targets where
  options : Options
  table : Table String String
  deriving Inhabited

namespace Targets

/-- The targets that the options give. -/
def ofOptions (options : Options) : Targets :=
  let settled := options.withDefaults
  { options := settled, table := Table.ofList settled.customTypes.entries }

/-- The target of a type. -/
def find? (t : Targets) (name : String) : Option String := t.table.find? name

/-- Gives a type a target, in place of any other. -/
def override (t : Targets) (name target : String) : Targets := { t with table := t.table.put name target }

/-- Gives a type a target if it has none, and tells whether it had none. -/
def offer (t : Targets) (name target : String) : Targets × Bool :=
  if t.table.contains name then (t, false) else (t.override name target, true)

/-- The target of scalars without a custom one. -/
def scalarTarget : String := "str"

/-- Offers a target to each scalar of some definitions, and lists the scalars that took it. -/
def registerScalars (t : Targets) : List Schema.Definition → Targets × List String
  | [] => (t, [])
  | .scalar name :: definitions =>
    let (t, added) := t.offer name scalarTarget
    let (t, names) := t.registerScalars definitions
    (t, if added then name :: names else names)
  | _ :: definitions => t.registerScalars definitions

/-- The package of models. -/
def modelPackage (t : Targets) : String := t.options.effectiveModelPackage

/-- The package of operations and resolvers. -/
def apiPackage (t : Targets) : String := t.options.effectiveApiPackage

/-- Are operation interfaces generated? -/
def generatesApis (t : Targets) : Bool := t.options.apis.getD false

/-- The class name of a model. -/
def modelClassName (t : Targets) (name : String) : String :=
  t.options.namePrefix.getD "" ++ name ++ t.options.nameSuffix.getD ""

end Targets

end SchemaBindings
