import SchemaBindings.Template.Value

/-!
# Templates

A template is text with holes. A hole names the module or the options, may go on to an attribute, and may pass the
value through filters. A hole that names nothing is a fault.

This is the part of a template engine that texts with holes need, and no more: a template with statements, comments,
operators or other filters counts as malformed here, though an engine may well fill it in. Runs do not depend on this
part: they take the engine as one of their tools (`Tools`), and these templates are what `Tools.standard` reads.
-/

namespace SchemaBindings

/-- Why a template cannot be filled in. -/
inductive TemplateFault
  /-- A hole does not have the form of one. -/
  | malformed
  | unknownName (name : String)
  | unknownAttribute (typeText name : String)
  /-- A filter needs a text and was given something else. -/
  | notText
  deriving DecidableEq, Repr, Inhabited

/-- The wording of a fault. -/
def TemplateFault.message : TemplateFault → String
  | malformed => "unexpected token in template"
  | unknownName name => Text.quoted name ++ " is undefined"
  | unknownAttribute typeText name => Text.quoted typeText ++ " has no attribute " ++ Text.quoted name
  | notText => "expected string or bytes-like object"

namespace Template

/-- What a hole shows. -/
structure Hole where
  name : String
  attributes : List String
  filters : List String
  deriving DecidableEq, Repr, Inhabited

/-- A part of a template. -/
inductive Part
  | text (cs : List Char)
  | hole (h : Hole)
  deriving DecidableEq, Repr, Inhabited

/-! ### Reading -/

/-- A name that fills a text up to blanks at both ends. -/
def name? (cs : List Char) : Option String :=
  let trimmed := Text.trim cs
  if Text.isIdentifier trimmed then some (String.ofList trimmed) else none

/-- The hole that a text stands for. -/
def hole? (cs : List Char) : Option Hole := do
  let (path, filters) ← match Text.parts '|' cs with
    | path :: filters => some (path, filters)
    | [] => none
  let names ← (Text.parts '.' path).mapM name?
  let filters ← filters.mapM name?
  match names with
  | name :: attributes => return { name, attributes, filters }
  | [] => none

/-- The text before the marks that close a hole, and the text after them. -/
def untilClose : List Char → Option (List Char × List Char)
  | '\x7d' :: '\x7d' :: cs => some ([], cs)
  | c :: cs => (untilClose cs).map fun r => (c :: r.1, r.2)
  | [] => none

/-- Puts a character in front of the text that parts start with. -/
def consText (c : Char) : List Part → List Part
  | .text cs :: parts => .text (c :: cs) :: parts
  | parts => .text [c] :: parts

/-- The parts of a template with at most `fuel` characters. Statements and comments are no parts of a template. -/
def partsFrom : Nat → List Char → Option (List Part)
  | 0, _ => some []
  | _, [] => some []
  | fuel + 1, '\x7b' :: '\x7b' :: cs => do
    let (inside, rest) ← untilClose cs
    return .hole (← hole? inside) :: (← partsFrom fuel rest)
  | fuel + 1, '\x7b' :: c :: cs => if c == '%' || c == '#' then none else (partsFrom fuel (c :: cs)).map (consText '\x7b')
  | fuel + 1, c :: cs => (partsFrom fuel cs).map (consText c)

/-- The parts of a template. -/
def parts? (cs : List Char) : Option (List Part) := partsFrom (cs.length + 1) cs

/-! ### Filling in -/

/-- The filters by name. -/
def filters : List (String × (String → String)) :=
  [("snake_case", Naming.snakeCase), ("method_name", Naming.methodName), ("safe_identifier", Naming.safeIdentifier),
    ("safe_docstring", Naming.safeDocstring), ("safe_comment", Naming.safeComment), ("repr", Text.quoted)]

/-- The value of a name followed by attributes. -/
def followed (scope : List (String × Value)) (h : Hole) : Except TemplateFault Value := do
  match scope.lookup h.name with
  | none => throw (.unknownName h.name)
  | some v => h.attributes.foldlM (fun v name =>
      match v.attribute? name with
      | some found => return found
      | none => throw (.unknownAttribute v.typeText name)) v

/-- Passes a value through a filter. -/
def filtered (v : Value) (filter : String) : Except TemplateFault Value :=
  match filters.lookup filter, v with
  | some f, .text t => .ok (.text (f t))
  | some _, _ => .error .notText
  | none, _ => .error .malformed

/-- The value that the first filter of a hole receives. A missing value is no text there, but it has no attributes. -/
def Hole.subject (scope : List (String × Value)) (h : Hole) : Except TemplateFault Value := do
  if !h.attributes.isEmpty then
    let _ ← followed scope { h with attributes := h.attributes.dropLast }
  (followed scope h).mapError fun _ => .notText

/-- What a hole shows. -/
def Hole.fill (scope : List (String × Value)) (h : Hole) : Except TemplateFault String := do
  if h.filters.isEmpty then return (← followed scope h).shown
  else return (← h.filters.foldlM filtered (← h.subject scope)).shown

/-- What a part shows. -/
def Part.fill (scope : List (String × Value)) : Part → Except TemplateFault String
  | text cs => .ok (String.ofList cs)
  | hole h => h.fill scope

/-- The names that a template sees. -/
def scopeOf (o : Options) (m : Module) : List (String × Value) := [("model", .ofModule m), ("config", .ofOptions o)]

/-- The text of a template for a module. -/
def fill (o : Options) (m : Module) (template : String) : Except TemplateFault String := do
  match parts? (Text.unifyLineEnds template.toList) with
  | none => throw .malformed
  | some parts => return String.join (← parts.mapM (Part.fill (scopeOf o m)))

end Template

end SchemaBindings
