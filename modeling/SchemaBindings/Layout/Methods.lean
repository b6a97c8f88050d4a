import SchemaBindings.Layout.Lines

/-!
# Layout of operations and resolvers

Operations and resolvers become protocols: classes whose methods are declared and not defined. Blanks and line breaks
around statements are gone already, as in all layouts.
-/

namespace SchemaBindings.Layout

/-- The import of the names that protocols need. -/
def protocolImport (m : Module) : String :=
  "from typing import " ++ (if m.typeImports.isEmpty then "" else typeCondition ++ ", ") ++ "Protocol"

/-- The first line of a protocol. -/
def protocolLine (name : String) : String := classLine name ["Protocol"]

/-- The top of a module with protocols. -/
def protocolTop (m : Module) (title : String) : List String :=
  [quotedDoc (banner title), ""] ++ futureImport ++ [protocolImport m] ++ importLines m

/-! ### Operations -/

/-- What the docstring of an operation says about a default. -/
def defaultRemark (a : Argument) : String :=
  match nonempty? a.default with
  | some value => " Default " ++ a.name ++ ": " ++ Naming.safeDocstring value ++ "."
  | none => ""

/-- The docstring of an operation, escaped. -/
def operationDoc (root : String) (o : Operation) : String :=
  let subject := match nonempty? o.description with
    | some d => Naming.safeDocstring d
    | none => "GraphQL " ++ operationKind root ++ " `" ++ o.name ++ "`."
  subject ++ String.join (o.arguments.map defaultRemark)

/-- The method of an operation. -/
def operationLines (root : String) (o : Operation) : List String :=
  ["", methodLine o.method "self" o.arguments o.returnType, inMethod (quotedDoc (operationDoc root o)), declaredOnly]

/-- What the protocol of operations says about itself. -/
def operationsDoc? (m : Module) (root : String) (whole : Bool) : Option String :=
  (nonempty? m.description).or (if whole then some ("Root " ++ root ++ " type.") else none)

/-- The module of operations. -/
def operationsLines (m : Module) (root : String) (whole : Bool) (methods : List Operation) : List String :=
  let body := ((operationsDoc? m root whole).map fun d => indented (docstring d)).toList ++
    methods.flatMap (operationLines root)
  protocolTop m (m.className ++ " " ++ operationKind root ++ " interface") ++ gap ++ [protocolLine m.className] ++
    if body.isEmpty then emptyBody else body

/-! ### Resolvers -/

/-- The method that resolves a field. -/
def resolverMethodLines (entry : ResolverEntry) (f : Field) : List String :=
  ["", methodLine (Naming.methodName f.name) ("self, parent: " ++ entry.modelClass) f.arguments f.type, declaredOnly]

/-- The protocol of the resolvers of one type. -/
def resolverEntryLines (entry : ResolverEntry) : List String :=
  let kind := if entry.isInterface then "interface" else "type"
  ["", protocolLine entry.resolverClass,
      indented (quotedDoc ("Resolvers for fields of the `" ++ entry.name ++ "` " ++ kind ++ "."))] ++
    entry.fields.flatMap (resolverMethodLines entry) ++ [""]

/-- The attribute that holds the resolvers of one type. -/
def accessorLine (entry : ResolverEntry) : String := indented (entry.accessor ++ ": " ++ entry.resolverClass)

/-- The module of all resolvers. -/
def resolversLines (m : Module) (entries : List ResolverEntry) : List String :=
  protocolTop m "Field resolvers" ++ [""] ++ entries.flatMap resolverEntryLines ++
    ["", protocolLine m.className,
      indented (quotedDoc "Resolvers of every object and interface type in the schema."), ""] ++
    if entries.isEmpty then emptyBody else entries.map accessorLine

end SchemaBindings.Layout
