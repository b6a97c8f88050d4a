import SchemaBindings.Schema.Reading

/-!
# The grammar of schema documents

One reader for each phrase of the grammar. Phrases that contain themselves (list types, list and object values,
selection sets) carry the number of levels that may still be opened; a document may nest them two hundred deep.
Directives and operations are read for their form and then forgotten.
-/

namespace SchemaBindings.Schema

/-- How deep types, values and selection sets may be nested. -/
def maxNesting : Nat := 200

namespace Reader

/-! ### Types and values -/

/-- A type, with `room` levels to go. -/
def typeExprWithin : Nat → Reader TypeExpr
  | 0 => do
    if ← atMark .bracketL then throw .tooDeep
    else
      let typeName ← name
      return .named typeName (← skipMark .bang)
  | room + 1 => do
    if ← skipMark .bracketL then
      let item ← typeExprWithin room
      expectMark .bracketR
      return .list item (← skipMark .bang)
    else
      let typeName ← name
      return .named typeName (← skipMark .bang)

/-- A type. -/
def typeExpr : Reader TypeExpr := typeExprWithin maxNesting

/-- A variable; there is none in a constant value. -/
def variableName (constant : Bool) : Reader Value := do
  expectMark .dollar
  if constant then
    match ← current with
    | .name text => throw (.variableInConstant text)
    | _ => throw (.unexpected (.mark .dollar))
  else return .variable (← name)

/-- A value without parts. -/
def simpleValue (constant : Bool) : Reader Value := do
  match ← current with
  | .int text => advance; return .int text
  | .float text => advance; return .float text
  | .string value => advance; return .string value false
  | .blockString value => advance; return .string value true
  | .name "true" => advance; return .boolean true
  | .name "false" => advance; return .boolean false
  | .name "null" => advance; return .null
  | .name text => advance; return .enumeration text
  | .mark .dollar => variableName constant
  | _ => unexpected

/-- A name, a colon and a value. -/
def namedValue (value : Reader Value) : Reader (String × Value) := do
  let field ← name
  expectMark .colon
  return (field, ← value)

/-- A value, with `room` levels to go. -/
def valueWithin (constant : Bool) : Nat → Reader Value
  | 0 => do
    if (← atMark .bracketL) || (← atMark .braceL) then throw .tooDeep else simpleValue constant
  | room + 1 => do
    if ← skipMark .bracketL then return .list (← itemsUntil .bracketR (valueWithin constant room))
    else if ← skipMark .braceL then
      return .object (← itemsUntil .braceR (namedValue (valueWithin constant room)))
    else simpleValue constant

/-- Arguments in parentheses, if there are any. -/
def callArguments (constant : Bool) (room : Nat) : Reader (List (String × Value)) :=
  optionalEnclosed .parenL .parenR (namedValue (valueWithin constant room))

/-- Directives, at most `fuel` of them; the answer is their number. -/
def directivesUpTo (constant : Bool) (room : Nat) : Nat → Reader Nat
  | 0 => return 0
  | fuel + 1 => do
    if ← skipMark .atSign then
      let _ ← name
      let _ ← callArguments constant room
      return (← directivesUpTo constant room fuel) + 1
    else return 0

/-- Directives; the answer is their number. -/
def directives (constant : Bool) (room : Nat) : Reader Nat := do
  directivesUpTo constant room ((← get).length + 1)

/-- The directives of a type system definition. -/
def constDirectives : Reader Nat := directives true maxNesting

/-! ### Parts of type definitions -/

/-- An argument definition or an input field. -/
def inputValue : Reader InputValue := do
  let description ← description
  let valueName ← name
  expectMark .colon
  let type ← typeExpr
  let default ← do
    if ← skipMark .equals then pure (some (← valueWithin true maxNesting)) else pure none
  let _ ← constDirectives
  return { name := valueName, description, type, default }

/-- The argument definitions of a field or directive. -/
def argumentDefinitions : Reader (List InputValue) := optionalEnclosed .parenL .parenR inputValue

/-- A field definition. -/
def fieldDefinition : Reader FieldDefinition := do
  let description ← description
  let fieldName ← name
  let arguments ← argumentDefinitions
  expectMark .colon
  let type ← typeExpr
  let _ ← constDirectives
  return { name := fieldName, description, arguments, type }

/-- The fields of an object type or interface. -/
def fieldDefinitions : Reader (List FieldDefinition) := optionalEnclosed .braceL .braceR fieldDefinition

/-- The interfaces that a type implements. -/
def implementedInterfaces : Reader (List String) := do
  if ← skipWord "implements" then separated .ampersand name else return []

/-- The members of a union. -/
def unionMembers : Reader (List String) := do
  if ← skipMark .equals then separated .pipe name else return []

/-- A value of an enumeration; the words for other values are refused. -/
def enumValue : Reader String := do
  let _ ← description
  let found ← current
  if found == .name "true" || found == .name "false" || found == .name "null" then
    throw (.reservedValue found)
  let value ← name
  let _ ← constDirectives
  return value

/-- The values of an enumeration. -/
def enumValues : Reader (List String) := optionalEnclosed .braceL .braceR enumValue

/-- The fields of an input object. -/
def inputFields : Reader (List InputValue) := optionalEnclosed .braceL .braceR inputValue

/-- One of the words `query`, `mutation` and `subscription`, and the name of a type. -/
def rootOperation : Reader String := do
  let word ← name
  unless ["query", "mutation", "subscription"].contains word do throw (.unexpected (.name word))
  expectMark .colon
  name

/-- The places where a directive may stand. -/
def directiveLocations : List String :=
  ["QUERY", "MUTATION", "SUBSCRIPTION", "FIELD", "FRAGMENT_DEFINITION", "FRAGMENT_SPREAD", "INLINE_FRAGMENT",
    "VARIABLE_DEFINITION", "FRAGMENT_VARIABLE_DEFINITION", "SCHEMA", "SCALAR", "OBJECT", "FIELD_DEFINITION",
    "ARGUMENT_DEFINITION", "INTERFACE", "UNION", "ENUM", "ENUM_VALUE", "INPUT_OBJECT", "INPUT_FIELD_DEFINITION",
    "DIRECTIVE_DEFINITION"]

/-- A place where a directive may stand. -/
def directiveLocation : Reader String := do
  let word ← name
  unless directiveLocations.contains word do throw (.unexpected (.name word))
  return word

/-! ### Operations -/

/-- A field of a selection set, or a spread, where `selections` reads an inner selection set. -/
def selectionOf (room : Nat) (selections : Reader Unit) : Reader Unit := do
  if ← skipMark .spread then
    let conditional ← skipWord "on"
    if !conditional && (← current) matches .name _ then
      let _ ← name
      let _ ← directives false room
    else
      if conditional then let _ ← name
      let _ ← directives false room
      selections
  else
    let _ ← name
    if ← skipMark .colon then let _ ← name
    let _ ← callArguments false room
    let _ ← directives false room
    if ← atMark .braceL then selections

/-- A selection set, with `room` levels to go. -/
def selectionsWithin : Nat → Reader Unit
  | 0 => do
    if ← atMark .braceL then throw .tooDeep else expectMark .braceL
  | room + 1 => do
    expectMark .braceL
    let _ ← itemsUntil .braceR (selectionOf room (selectionsWithin room))

/-- A selection set. -/
def selections : Reader Unit := selectionsWithin maxNesting

/-- The definition of a variable. -/
def variableDefinition : Reader Unit := do
  let _ ← description
  let _ ← variableName false
  expectMark .colon
  let _ ← typeExpr
  if ← skipMark .equals then let _ ← valueWithin true maxNesting
  let _ ← constDirectives

/-- An operation, after its first word. -/
def operation : Reader Definition := do
  let operationName ← do
    match ← current with
    | .name text => advance; pure (some text)
    | _ => pure none
  let _ ← optionalEnclosed .parenL .parenR variableDefinition
  let _ ← directives false maxNesting
  selections
  return .operation operationName

/-- A fragment, after its first word. -/
def fragment : Reader Definition := do
  if ← atWord "on" then unexpected
  let fragmentName ← name
  expectWord "on"
  let _ ← name
  let _ ← directives false maxNesting
  selections
  return .fragment fragmentName

/-! ### Type system definitions -/

/-- An object type or interface, after its first word. -/
def fielded (description : Option String) : Reader FieldedDefinition := do
  let typeName ← name
  let interfaces ← implementedInterfaces
  let _ ← constDirectives
  let fields ← fieldDefinitions
  return { name := typeName, description, interfaces, fields }

/-- The definition that starts with a word, after this word and the description before it. -/
def definitionOf (description : Option String) : String → Option (Reader Definition)
  | "schema" => some do
    let _ ← constDirectives
    let _ ← enclosed .braceL .braceR rootOperation
    return .schema
  | "scalar" => some do
    let typeName ← name
    let _ ← constDirectives
    return .scalar typeName
  | "type" => some do return .object (← fielded description)
  | "interface" => some do return .interface (← fielded description)
  | "union" => some do
    let typeName ← name
    let _ ← constDirectives
    return .union typeName description (← unionMembers)
  | "enum" => some do
    let typeName ← name
    let _ ← constDirectives
    return .enumeration typeName description (← enumValues)
  | "input" => some do
    let typeName ← name
    let _ ← constDirectives
    return .input typeName description (← inputFields)
  | "directive" => some do
    expectMark .atSign
    let directiveName ← name
    let _ ← argumentDefinitions
    let _ ← constDirectives
    let _ ← skipWord "repeatable"
    expectWord "on"
    let _ ← separated .pipe directiveLocation
    return .directive directiveName
  | "query" | "mutation" | "subscription" => some operation
  | "fragment" => some fragment
  | _ => none

/-- Refuses an extension that adds nothing. -/
def requireContent (present : Bool) : Reader Unit := do unless present do unexpected

/-- The extension of what a word names, after this word. -/
def extensionOf : String → Option (Reader Definition)
  | "schema" => some do
    let count ← constDirectives
    let roots ← optionalEnclosed .braceL .braceR rootOperation
    requireContent (count != 0 || !roots.isEmpty)
    return .extension .schema none
  | "scalar" => some do
    let typeName ← name
    requireContent ((← constDirectives) != 0)
    return .extension .scalar (some typeName)
  | "type" => some (fieldedExtension .object)
  | "interface" => some (fieldedExtension .interface)
  | "union" => some do
    let typeName ← name
    let count ← constDirectives
    let members ← unionMembers
    requireContent (count != 0 || !members.isEmpty)
    return .extension .union (some typeName)
  | "enum" => some do
    let typeName ← name
    let count ← constDirectives
    let values ← enumValues
    requireContent (count != 0 || !values.isEmpty)
    return .extension .enumeration (some typeName)
  | "input" => some do
    let typeName ← name
    let count ← constDirectives
    let fields ← inputFields
    requireContent (count != 0 || !fields.isEmpty)
    return .extension .input (some typeName)
  | "directive" => some do
    expectMark .atSign
    let directiveName ← name
    requireContent ((← constDirectives) != 0)
    return .extension .directive (some directiveName)
  | _ => none
where
  fieldedExtension (extended : Extended) : Reader Definition := do
    let typeName ← name
    let interfaces ← implementedInterfaces
    let count ← constDirectives
    let fields ← fieldDefinitions
    requireContent (!interfaces.isEmpty || count != 0 || !fields.isEmpty)
    return .extension extended (some typeName)

/-- An extension, after its first word. -/
def extension : Reader Definition := do
  let found ← current
  match found with
  | .name word =>
    match extensionOf word with
    | some reader => advance; reader
    | none => throw (.unexpected found)
  | _ => throw (.unexpected found)

/-- A definition of any kind. -/
def definition : Reader Definition := do
  if ← atMark .braceL then
    selections
    return .operation none
  let described ← atDescription
  let keyword ← if described then ahead else current
  if described && keyword == .mark .braceL then throw .describedQuery
  match keyword with
  | .name word =>
    let description ← description
    match definitionOf description word with
    | some reader => advance; reader
    | none =>
      if description.isSome then throw .describedOther
      else if word == "extend" then advance; extension
      else throw (.unexpected keyword)
  | _ => throw (.unexpected keyword)

/-! ### Whole texts -/

/-- Definitions up to the end, at most `fuel` of them. -/
def definitionsUpTo : Nat → Reader (List Definition)
  | 0 => return []
  | fuel + 1 => do
    if (← current) == .finish then return []
    else
      let first ← definition
      return first :: (← definitionsUpTo fuel)

/-- One definition or more. -/
def document : Reader Document := do
  let first ← definition
  return first :: (← definitionsUpTo ((← get).length + 1))

/-- A phrase that is the whole text. -/
def whole {α : Type} (phrase : Reader α) (text : String) : Except SyntaxFault α := do
  match tokens text with
  | .malformed fault :: _ => throw (.lexical fault)
  | ts =>
    let (read, rest) ← phrase.run ts
    match rest.headD .finish with
    | .finish => return read
    | found => throw (.expected .finish found)

end Reader

/-- The document that a text holds. -/
def Document.ofText (text : String) : Except SyntaxFault Document := Reader.whole Reader.document text

/-- The type that a text holds. -/
def TypeExpr.ofText (text : String) : Except SyntaxFault TypeExpr := Reader.whole Reader.typeExpr text

end SchemaBindings.Schema
