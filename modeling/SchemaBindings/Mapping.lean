import SchemaBindings.Category
import SchemaBindings.Module
import SchemaBindings.Schema.ValueText

/-!
# From definitions to modules

Each definition of a document yields modules: a type, interface, input, enumeration or union one, an operation root
one for each field and one for itself. A document also yields a module with the resolvers of all its object types and
interfaces.
-/

namespace SchemaBindings

open Schema

/-! ### Names of parameters -/

/-- A name with low lines after it. -/
def withLowLines (name : String) (count : Nat) : String := name ++ String.ofList (List.replicate count '_')

/-- The name with the fewest low lines after it that is not in use. One more candidate than there are names in use
is enough. -/
def freshName (used : List String) (name : String) : String :=
  (((List.range (used.length + 1)).map (withLowLines name)).find? (!used.contains ·)).getD name

/-! ### Fields -/

namespace Scope

/-- The arguments of a method that already uses some parameter names. -/
def mapArguments (s : Scope) (context : String) : List String → List InputValue → Except UnknownType (List Argument)
  | _, [] => .ok []
  | used, value :: values => do
    let type ← s.resolve value.type (some context)
    let parameter := freshName used (Naming.methodName value.name)
    let others ← s.mapArguments context (parameter :: used) values
    return { name := value.name, parameter, type, default := value.default.map Value.text,
             description := value.description } :: others

/-- The fields of a class whose methods already use some parameter names. -/
def mapFields (s : Scope) (context : String) (used : List String) (fields : List FieldDefinition) :
    Except UnknownType (List Field) :=
  fields.mapM fun field => do
    let type ← s.resolve field.type (some context)
    let arguments ← s.mapArguments context used field.arguments
    return { name := field.name, identifier := Naming.safeIdentifier field.name, type, arguments,
             description := field.description }

/-- The fields of an input class. -/
def mapInputFields (s : Scope) (context : String) (fields : List InputValue) : Except UnknownType (List Field) :=
  s.mapFields context [] (fields.map fun field =>
    { name := field.name, description := field.description, arguments := [], type := field.type })

/-! ### Bases -/

/-- The names that are no ancestors of any of the names, each once. A class extends these only: the others come with
them. -/
def minimalNames (s : Scope) (names : List String) : List String :=
  let distinct := names.eraseDups
  let inherited := distinct.flatMap s.ancestors
  distinct.filter (!inherited.contains ·)

/-- The classes that a class extends. -/
def mapBases (s : Scope) (context : String) (names : List String) : Except UnknownType (List Reference) :=
  (s.minimalNames names).mapM (s.resolveName · (some context))

end Scope

/-! ### Definitions that belong together -/

/-- The unions of a document that list a type as a member. -/
def unionsContaining (document : Document) (name : String) : List String :=
  document.filterMap fun
    | .union union _ members => if members.contains name then some union else none
    | _ => none

/-- Object types and interfaces that get resolvers: all but those with the name of an operation root. The flag tells
interfaces apart. -/
def resolvedTypes (document : Document) : List (FieldedDefinition × Bool) :=
  document.filterMap fun
    | .object type => if Naming.isRoot type.name then none else some (type, false)
    | .interface type => if Naming.isRoot type.name then none else some (type, true)
    | _ => none

/-! ### Models -/

namespace Scope

/-- The module of a class that stands for a defined type. -/
def modelModule (s : Scope) (name : String) (description : Option String) (body : Body) : Module :=
  .assemble s s.targets.modelPackage (s.className name) description body

/-- The module of an object type. The unions that list it become bases next to its interfaces. -/
def objectModule (s : Scope) (document : Document) (type : FieldedDefinition) : Except UnknownType Module := do
  let fields ← s.mapFields type.name ["self"] type.fields
  let bases ← s.mapBases type.name (type.interfaces ++ unionsContaining document type.name)
  return s.modelModule type.name type.description (.record .object fields bases)

/-- The module of an interface. -/
def interfaceModule (s : Scope) (type : FieldedDefinition) : Except UnknownType Module := do
  let fields ← s.mapFields type.name ["self"] type.fields
  let bases ← s.mapBases type.name type.interfaces
  return s.modelModule type.name type.description (.record .interface fields bases)

/-- The module of an input object. -/
def inputModule (s : Scope) (name : String) (description : Option String) (fields : List InputValue) :
    Except UnknownType Module := do
  return s.modelModule name description (.record .input (← s.mapInputFields name fields) [])

/-- The module of an enumeration. -/
def enumerationModule (s : Scope) (name : String) (description : Option String) (values : List String) : Module :=
  s.modelModule name description (.enumeration values)

/-- The module of a union. The members extend it, so it imports none of them. -/
def unionModule (s : Scope) (name : String) (description : Option String) (members : List String) :
    Except UnknownType Module := do
  let members ← members.mapM fun member => do return (← s.resolveName member (some name)).target
  return s.modelModule name description (.union members)

/-! ### Operations -/

/-- The method for a field of an operation root. -/
def mapOperation (s : Scope) (root : String) (field : FieldDefinition) : Except UnknownType Operation := do
  let context := root ++ "." ++ field.name
  let returnType ← s.resolve field.type (some context)
  let arguments ← s.mapArguments context ["self"] field.arguments
  return { name := field.name, method := Naming.methodName field.name, returnType, arguments,
           description := field.description }

/-- The module of a class that stands for operations. -/
def apiModule (s : Scope) (className : String) (description : Option String) (body : Body) : Module :=
  .assemble s s.targets.apiPackage className description body

/-- The module of one field of an operation root; its class is named after both. -/
def operationModule (s : Scope) (root : String) (field : FieldDefinition) : Except UnknownType Module := do
  let operation ← s.mapOperation root field
  return s.apiModule (Naming.capitalize field.name ++ root) field.description (.operations root false [operation])

/-- The module of all fields of an operation root. -/
def rootModule (s : Scope) (root : FieldedDefinition) : Except UnknownType Module := do
  let operations ← root.fields.mapM (s.mapOperation root.name)
  return s.apiModule root.name root.description (.operations root.name true operations)

/-- The modules of an operation root: one for each field, then one for all of them. -/
def operationModules (s : Scope) (root : FieldedDefinition) : Except UnknownType (List Module) := do
  let single ← root.fields.mapM (s.operationModule root.name)
  return single ++ [← s.rootModule root]

/-! ### Resolvers -/

/-- The resolvers of a type. -/
def resolverEntry (s : Scope) (type : FieldedDefinition) (isInterface : Bool) : Except UnknownType ResolverEntry := do
  let model ← s.resolveName type.name (some type.name)
  let fields ← s.mapFields type.name ["self", "parent"] type.fields
  return { name := type.name, modelClass := s.className type.name, resolverClass := type.name ++ "Resolver",
           accessor := Naming.methodName type.name, model, fields, isInterface }

/-- The name of the class that gathers all resolvers. -/
def resolversClass : String := "Resolvers"

/-- The module of the resolvers of a document. -/
def resolverModule (s : Scope) (document : Document) : Except UnknownType Module := do
  let entries ← (resolvedTypes document).mapM fun type => s.resolverEntry type.1 type.2
  return s.apiModule resolversClass none (.resolvers entries)

/-! ### Documents -/

/-- The modules of a definition, or none at all for a definition that is skipped. Operation roots yield modules only
if the options ask for them. -/
def definitionModules? (s : Scope) (document : Document) (definition : Definition) :
    Option (Except UnknownType (List Module)) :=
  match definition with
  | .object type =>
    some (if Naming.isRoot type.name then
        if s.targets.generatesApis then s.operationModules type else .ok []
      else do return [← s.objectModule document type])
  | .interface type => some do return [← s.interfaceModule type]
  | .enumeration name description values => some (.ok [s.enumerationModule name description values])
  | .input name description fields => some do return [← s.inputModule name description fields]
  | .union name description members => some do return [← s.unionModule name description members]
  | _ => none

/-- The steps of mapping a document: one for each definition, and one for the resolvers at the end. -/
def steps (s : Scope) (document : Document) : List (Option (Except UnknownType (List Module))) :=
  document.map (s.definitionModules? document) ++ [some do return [← s.resolverModule document]]

end Scope

/-- The modules of a document up to the first failure, and how many definitions have been skipped. -/
structure Mapped where
  modules : List Module
  skipped : Nat
  failure : Option UnknownType
  deriving Inhabited

/-- Takes steps until one fails. -/
def Mapped.ofSteps : List (Option (Except UnknownType (List Module))) → Mapped
  | [] => { modules := [], skipped := 0, failure := none }
  | none :: steps =>
    let mapped := ofSteps steps
    { mapped with skipped := mapped.skipped + 1 }
  | some (.ok modules) :: steps =>
    let mapped := ofSteps steps
    { mapped with modules := modules ++ mapped.modules }
  | some (.error e) :: _ => { modules := [], skipped := 0, failure := some e }

/-- The modules of a document. -/
def Scope.mapDocument (s : Scope) (document : Document) : Mapped := .ofSteps (s.steps document)

end SchemaBindings
