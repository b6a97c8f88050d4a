import SchemaBindings.Source.Expression

/-!
# Statements of generated source text

Simple statements share a line; compound ones have a header and a block, which is the rest of the line or the lines
with a wider margin. `wellFormed` says whether a text is a module: whether it can be cut into tokens and these are
statements in places that allow them.
-/

namespace SchemaBindings.Source

/-- What a statement does for those after it. Features of the language are chosen at the start of a module, where only
a text may come before. -/
inductive Role
  | text
  | features (names : List String)
  | other
  deriving DecidableEq, Repr, Inhabited

namespace Role

/-- Does the statement choose features? -/
def isFeatures : Role → Bool
  | features _ => true
  | _ => false

/-- The feature that annotations are kept as they are written. -/
def keptAnnotations : String := "annotations"

/-- Does the statement choose to keep annotations? -/
def keepsAnnotations : Role → Bool
  | features names => names.contains keptAnnotations
  | _ => false

/-- Do the statements that choose features come first, or after a text? -/
def inOrder : List Role → Bool
  | text :: roles => !(roles.dropWhile isFeatures).any isFeatures
  | roles => !(roles.dropWhile isFeatures).any isFeatures

end Role

namespace Reader

/-! ### Simple statements -/

/-- Operators that update a target in place. -/
def updatingMarks : List String :=
  ["+=", "-=", "*=", "/=", "//=", "%=", "@=", "&=", "|=", "^=", ">>=", "<<=", "**="]

/-- What is assigned: the values of expressions, or those that come in where a function yields. -/
def assigned (inner : Inner) (s : Setting) : Reader Unit := do
  if ← seesWord "yield" then
    let _ ← yielded inner s
  else
    let _ ← valueExpressions inner s

/-- Targets and values of an assignment, of which the first has been read. -/
def assignments (inner : Inner) (s : Setting) (first : Shape) : Reader Unit := do
  let last ← iterate (fun shape => do
    if ← skipMark "=" then
      require shape.isTarget
      if ← seesWord "yield" then return some (← yielded inner s) else return some (← expressions inner s)
    else return none) (s.bound + 1) first
  let _ ← unstarred last

/-- Expressions, or an assignment to them. -/
def assignment (inner : Inner) (s : Setting) : Reader Unit := do
  if ← seesWord "yield" then
    let _ ← yielded inner s
  else
    let first ← expressions inner s
    if ← skipMark ":" then
      require first.isSingleTarget
      let _ ← inner.whole s.annotation
      if ← skipMark "=" then assigned inner s
    else if ← skipAnyMark updatingMarks then
      require first.isSingleTarget
      assigned inner s
    else assignments inner s first

/-- Names joined by dots. -/
def dottedName (s : Setting) : Reader String := do
  let first ← identifier
  iterate (fun text => do
    if ← skipMark "." then return some (text ++ "." ++ (← identifier)) else return none) (s.bound + 1) first

/-- A name for something, after the word for that, if there is one. -/
def optionalAlias : Reader Unit := do
  if ← skipWord "as" then
    let _ ← binding

/-- A statement that imports modules. Without another name, the first part of a module's name is bound. -/
def importStatement (s : Setting) : Reader Unit := do
  expectWord "import"
  let _ ← commaStrict s do
    let bound ← current
    let _ ← dottedName s
    if !(← seesWord "as") then require (bound != some (.name unbindable))
    optionalAlias

/-- The dots before the module of an import, and whether there are any. -/
def leadingDots (s : Setting) : Reader Bool :=
  iterate (fun _ => do
    if ← skipMark "." then return some true
    else if ← skipMark "..." then return some true
    else return none) (s.bound + 1) false

/-- The names that are imported, or a star for all of them. -/
def importedNames (s : Setting) : Reader (Option (List String)) := do
  let item : Reader String := do
    let name ← identifier
    if !(← seesWord "as") then require (name != unbindable)
    optionalAlias
    return name
  if ← skipMark "*" then
    require s.outermost
    return none
  else if ← skipMark "(" then
    let more : Reader Bool := do return !(← seesMark ")")
    let (names, _) ← commaSeparated s more item
    expectMark ")"
    return some names
  else return some (← commaStrict s item)

/-- The module whose names choose features of the language. -/
def featureModule : String := "__future__"

/-- The features that can be chosen. -/
def features : List String :=
  ["nested_scopes", "generators", "division", "absolute_import", "with_statement", "print_function",
    "unicode_literals", "barry_as_FLUFL", "generator_stop", Role.keptAnnotations]

/-- A statement that imports names from a module. -/
def fromStatement (s : Setting) : Reader Role := do
  expectWord "from"
  let dots ← leadingDots s
  let module ← if dots && (← seesWord "import") then pure "" else dottedName s
  expectWord "import"
  let names ← importedNames s
  if module == featureModule && !dots then
    match names with
    | some names =>
      require (names.all features.contains)
      return .features names
    | none => failure
  else return .other

/-- Does the statement consist of a text only? -/
def isTextStatement : Reader Bool := do
  match ← get with
  | .literal false [] :: rest =>
    let after := rest.dropWhile fun
      | .literal .. => true
      | _ => false
    return after.head? == some .newline || after.head? == some (.mark ";")
  | _ => return false

/-- A statement that raises an error. -/
def raiseStatement (inner : Inner) (s : Setting) : Reader Unit := do
  if ← startsExpression then
    let _ ← inner.whole s
    if ← skipWord "from" then
      let _ ← inner.whole s

/-- A statement that leaves a function. -/
def returnStatement (inner : Inner) (s : Setting) : Reader Unit := do
  require s.inFunction
  if ← startsExpression then
    let _ ← valueExpressions inner s

/-- A statement that deletes something. -/
def deleteStatement (inner : Inner) (s : Setting) : Reader Unit := do
  let (shapes, _) ← commaSeparated s startsExpression (inner.primary s)
  require (shapes.all Shape.isDeletable)

/-- A statement that says what should hold. -/
def assertStatement (inner : Inner) (s : Setting) : Reader Unit := do
  let _ ← inner.whole s
  if ← skipMark "," then
    let _ ← inner.whole s

/-- A statement without a block. -/
def simpleStatement (inner : Inner) (s : Setting) : Reader Role := do
  if ← isTextStatement then
    assignment inner s
    return .text
  else if ← seesWord "from" then fromStatement s
  else
    if ← seesWord "import" then importStatement s
    else if ← skipWord "pass" then pure ()
    else if ← skipWord "break" then require s.inLoop
    else if ← skipWord "continue" then require s.inLoop
    else if ← skipWord "return" then returnStatement inner s
    else if ← skipWord "raise" then raiseStatement inner s
    else if ← skipWord "del" then deleteStatement inner s
    else if ← skipWord "assert" then assertStatement inner s
    else if ← skipWord "global" then let _ ← commaStrict s identifier
    else if ← skipWord "nonlocal" then
      require s.inFunction
      let _ ← commaStrict s identifier
    else assignment inner s
    return .other

/-- The simple statements of a line. -/
def simpleLine (inner : Inner) (s : Setting) : Reader (List Role) := do
  let first ← simpleStatement inner s
  let roles ← iterate (fun roles => do
    if ← skipMark ";" then
      if ← sees .newline then return none else return some ((← simpleStatement inner s) :: roles)
    else return none) (s.bound + 1) [first]
  expect .newline
  return roles.reverse

/-! ### Compound statements -/

/-- What a compound statement needs: readers of expressions and of the block after a header. -/
structure Parts where
  inner : Inner
  block : Setting → Reader Unit

/-- A loop or choice may have a block for the other case. -/
def optionalElse (parts : Parts) (s : Setting) : Reader Unit := do
  if ← skipWord "else" then parts.block s

/-- The rest of a choice between blocks. -/
def ifStatement (parts : Parts) (s : Setting) : Reader Unit := do
  let _ ← named parts.inner s
  parts.block s
  repeated s do
    if ← skipWord "elif" then
      let _ ← named parts.inner s
      parts.block s
      return true
    else return false
  optionalElse parts s

/-- The rest of a loop with a condition. -/
def whileStatement (parts : Parts) (s : Setting) : Reader Unit := do
  let _ ← named parts.inner s
  parts.block s.loop
  optionalElse parts s

/-- The rest of a loop over elements. -/
def forStatement (parts : Parts) (s : Setting) : Reader Unit := do
  loopTargets parts.inner s
  expectWord "in"
  let _ ← valueExpressions parts.inner s
  parts.block s.loop
  optionalElse parts s

/-- A value to be entered and left, and a target for it. -/
def managed (parts : Parts) (s : Setting) : Reader Unit := do
  let _ ← parts.inner.whole s
  if ← skipWord "as" then require (← parts.inner.primary s).isTarget

/-- The rest of a block that enters and leaves values. They may stand in parentheses. -/
def withStatement (parts : Parts) (s : Setting) : Reader Unit := do
  let more : Reader Bool := do return !(← seesMark ")")
  (do
    expectMark "("
    let _ ← commaSeparated s more (managed parts s)
    expectMark ")"
    require (← seesMark ":")) <|>
  (do let _ ← commaStrict s (managed parts s))
  parts.block s

/-- What the handlers of a block have been so far. -/
structure Handlers where
  count : Nat
  /-- The handlers are for groups of errors. -/
  grouped : Bool
  /-- A handler of every error must be the last. -/
  sawLast : Bool
  deriving Inhabited

/-- One more handler. -/
def handler (parts : Parts) (s : Setting) (h : Handlers) : Reader (Option Handlers) := do
  if ← skipWord "except" then
    require !h.sawLast
    let grouped ← skipMark "*"
    require (h.count == 0 || grouped == h.grouped)
    let all ← seesMark ":"
    if all then require !grouped
    else
      let _ ← parts.inner.whole s
      optionalAlias
    parts.block s
    return some ⟨h.count + 1, grouped, all⟩
  else return none

/-- The rest of a block with handlers of errors, or with one that always runs at the end. -/
def tryStatement (parts : Parts) (s : Setting) : Reader Unit := do
  parts.block s
  let handlers ← iterate (handler parts s) (s.bound + 1) ⟨0, false, false⟩
  if handlers.count > 0 then optionalElse parts s
  let final ← skipWord "finally"
  require (handlers.count > 0 || final)
  if final then parts.block s

/-- The rest of a function. -/
def functionStatement (parts : Parts) (s : Setting) (waiting : Bool) : Reader Unit := do
  let _ ← binding
  expectMark "("
  parameters parts.inner s true ")"
  if ← skipMark "->" then
    let _ ← parts.inner.whole s.annotation
  parts.block (s.body waiting)

/-- The rest of a class. -/
def classStatement (parts : Parts) (s : Setting) : Reader Unit := do
  let _ ← binding
  if ← skipMark "(" then callArguments parts.inner s false
  parts.block s.members

/-- A statement that starts with the word for waiting. -/
def waitingStatement (parts : Parts) (s : Setting) : Reader Unit := do
  if ← skipWord "def" then functionStatement parts s true
  else
    require s.inWaiting
    if ← skipWord "for" then forStatement parts s
    else
      expectWord "with"
      withStatement parts s

/-- A function or class with decorators before it. -/
def decorated (parts : Parts) (s : Setting) : Reader Unit := do
  repeated s do
    if ← skipMark "@" then
      let _ ← named parts.inner s
      expect .newline
      return true
    else return false
  if ← skipWord "class" then classStatement parts s
  else
    let waiting ← skipWord "async"
    expectWord "def"
    functionStatement parts s waiting

/-- A line of simple statements, or a compound statement. -/
def statement (parts : Parts) (s : Setting) : Reader (List Role) := do
  if ← skipWord "if" then ifStatement parts s
  else if ← skipWord "while" then whileStatement parts s
  else if ← skipWord "for" then forStatement parts s
  else if ← skipWord "with" then withStatement parts s
  else if ← skipWord "try" then tryStatement parts s
  else if ← skipWord "def" then functionStatement parts s false
  else if ← skipWord "class" then classStatement parts s
  else if ← skipWord "async" then waitingStatement parts s
  else if ← seesMark "@" then decorated parts s
  else return ← simpleLine parts.inner s
  return [.other]

/-! ### Blocks and modules -/

/-- A block after a header. Features cannot be chosen in it. -/
def block (inner : Inner) (statement : Setting → Reader (List Role)) (s : Setting) : Reader Unit := do
  expectMark ":"
  let settled : Reader (List Role) → Reader Unit := fun read => do
    let roles ← read
    require !(roles.any Role.isFeatures)
  if ← skip .newline then
    expect .indent
    settled (statement s)
    repeated s do
      if ← skip .dedent then return false
      else
        settled (statement s)
        return true
  else settled (simpleLine inner s)

/-- Statements, with `room` margins to go. -/
def statementWithin (inner : Inner) : Nat → Setting → Reader (List Role)
  | 0, _ => failure
  | room + 1, s => statement ⟨inner, block inner (statementWithin inner room)⟩ s

/-- All statements of a module. -/
def module (size : Nat) : Reader Unit := do
  let inner := expressionsOf size
  let (roles, _) ← iterate (fun (roles, keeps) => do
    match ← current with
    | none => return none
    | some _ =>
      let s : Setting := { bound := size, keepsAnnotations := keeps }
      let more ← statementWithin inner (maxMargins + 2) s
      return some (more.reverse ++ roles, keeps || more.any Role.keepsAnnotations)) (size + 1) ([], false)
  require (Role.inOrder roles.reverse)

end Reader

/-- Is the text a module? There is no bound on the depth or the length of what it says; a compiler may run out of stack
or memory at a module, which is for a run's tools to say. -/
def wellFormed (text : String) : Bool :=
  let cs := text.toList
  match tokens? cs with
  | none => false
  | some tokens => ((Reader.module cs.length).run tokens).isSome

end SchemaBindings.Source
