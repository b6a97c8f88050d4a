import SchemaBindings.Table

/-!
# Options of a run

Every option may be left open. Two sets of options combine: what the first one leaves open, the second one may
settle; what is open in the end has a default, a package and the parts added to class names excepted.
-/

namespace SchemaBindings

/-- Options, each of them settled or open. -/
structure Options where
  /-- Target types of schema types, in place of the generated ones. -/
  customTypes : Table String String
  /-- The expression that required fields are set to. -/
  requiredValue : Option String
  /-- Are generated models immutable and hashable? -/
  frozen : Option Bool
  /-- Do generated models print their fields? -/
  printing : Option Bool
  /-- Are operation interfaces generated? -/
  apis : Option Bool
  /-- The package of all modules. -/
  package : Option String
  /-- The package of models. -/
  modelPackage : Option String
  /-- The package of operations and resolvers. -/
  apiPackage : Option String
  /-- What model names start with. -/
  namePrefix : Option String
  /-- What model names end with. -/
  nameSuffix : Option String
  deriving Inhabited

namespace Options

/-- All options open. -/
def unset : Options where
  customTypes := Table.empty
  requiredValue := none
  frozen := none
  printing := none
  apis := none
  package := none
  modelPackage := none
  apiPackage := none
  namePrefix := none
  nameSuffix := none

/-- The first options, with what they leave open taken from the second. -/
def combine (first second : Options) : Options where
  customTypes := first.customTypes.merge second.customTypes
  requiredValue := first.requiredValue.or second.requiredValue
  frozen := first.frozen.or second.frozen
  printing := first.printing.or second.printing
  apis := first.apis.or second.apis
  package := first.package.or second.package
  modelPackage := first.modelPackage.or second.modelPackage
  apiPackage := first.apiPackage.or second.apiPackage
  namePrefix := first.namePrefix.or second.namePrefix
  nameSuffix := first.nameSuffix.or second.nameSuffix

/-- Defaults for what has one and is open. -/
def withDefaults (o : Options) : Options :=
  { o with
    requiredValue := o.requiredValue.or (some "Field(...)")
    frozen := o.frozen.or (some false)
    printing := o.printing.or (some false)
    apis := o.apis.or (some true) }

/-- The first text that is settled and not empty, or else the empty text. -/
def firstNonempty (choices : List (Option String)) : String :=
  ((choices.filterMap id).find? (!·.isEmpty)).getD ""

/-- The package in which models end up. -/
def effectiveModelPackage (o : Options) : String := firstNonempty [o.modelPackage, o.package]

/-- The package in which operations and resolvers end up. -/
def effectiveApiPackage (o : Options) : String := firstNonempty [o.apiPackage, o.package]

end Options

end SchemaBindings
