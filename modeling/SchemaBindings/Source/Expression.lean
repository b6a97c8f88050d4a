import SchemaBindings.Source.Reading

/-!
# Expressions of generated source text

One reader for each form of expression. A reader tells the shape of what it has read, because only some shapes can be
assigned to. Forms that contain whole expressions take the reader for those as an argument; it is the same reader with
one level of nesting less to go.
-/

namespace SchemaBindings.Source

/-- What an expression looks like to an assignment. -/
inductive Shape
  | name (text : String)
  /-- An attribute or an item. -/
  | place
  /-- A list or tuple that is written out. -/
  | items (elements : List Shape)
  /-- Something to be spread out, or to take what is left over. -/
  | starred (inner : Shape)
  | value
  deriving Repr, Inhabited

namespace Shape

/-- Can it be annotated, or updated in place? -/
def isSingleTarget : Shape → Bool
  | name text => text != Reader.unbindable
  | place => true
  | _ => false

/-- Is it starred? -/
def isStarred : Shape → Bool
  | starred _ => true
  | _ => false

mutual

/-- Can it be assigned to? Of the elements of a list, at most one takes what is left over. -/
def isTarget : Shape → Bool
  | name text => text != Reader.unbindable
  | place => true
  | items elements => areTargets elements && (elements.filter isStarred).length ≤ 1
  | starred _ => false
  | value => false

/-- Can all elements of a list be assigned to? -/
def areTargets : List Shape → Bool
  | [] => true
  | starred inner :: rest => isTarget inner && areTargets rest
  | element :: rest => isTarget element && areTargets rest

end

mutual

/-- Can it be deleted? -/
def isDeletable : Shape → Bool
  | name text => text != Reader.unbindable
  | place => true
  | items elements => areDeletable elements
  | starred _ => false
  | value => false

/-- Can all elements of a list be deleted? -/
def areDeletable : List Shape → Bool
  | [] => true
  | element :: rest => isDeletable element && areDeletable rest

end

end Shape

/-- Readers of the expressions inside another. -/
structure Inner where
  /-- Reads an atom with what follows it. -/
  primary : Setting → Reader Shape
  /-- Reads a whole expression. -/
  whole : Setting → Reader Shape

namespace Reader

/-- May an expression start at the front? -/
def startsExpression : Reader Bool := do
  match ← current with
  | some (.name text) =>
    return !Naming.isKeyword text || ["False", "None", "True", "not", "lambda", "await"].contains text
  | some .number | some (.literal ..) => return true
  | some (.mark m) => return ["(", "[", "\x7b", "+", "-", "~", "*", "..."].contains m
  | _ => return false

/-- Refuses what is starred. -/
def unstarred (shape : Shape) : Reader Shape := do
  require !shape.isStarred
  return shape

/-! ### Operators -/

/-- Operators between operands that are no comparisons. -/
def arithmeticMarks : List String := ["+", "-", "*", "/", "//", "%", "@", "<<", ">>", "&", "|", "^", "**"]

/-- Marks that compare. -/
def comparingMarks : List String := ["<", ">", "<=", ">=", "==", "!="]

/-- Steps over an operator that compares, if there is one. -/
def skipComparison : Reader Bool := do
  if ← skipAnyMark comparingMarks then return true
  else if ← skipWord "in" then return true
  else if ← skipWord "is" then
    let _ ← skipWord "not"
    return true
  else if (← seesWord "not") && (← ahead) == some (.name "in") then
    advance; advance
    return true
  else return false

/-- An item and more of them after operators; several of them make a value. -/
def chained (s : Setting) (operator : Reader Bool) (item : Reader Shape) : Reader Shape := do
  let first ← item
  iterate (fun _ => do
    if ← operator then
      let _ ← item
      return some .value
    else return none) (s.bound + 1) first

/-- An item after any number of operators, which make it a value. -/
def prefixed (s : Setting) (operator : Reader Bool) (item : Reader Shape) : Reader Shape := do
  if ← operator then
    repeated s operator
    let _ ← item
    return .value
  else item

/-- Operators over atoms with what follows them. -/
def arithmetic (s : Setting) (primary : Reader Shape) : Reader Shape :=
  chained s (skipAnyMark arithmeticMarks) (prefixed s (skipAnyMark ["+", "-", "~"]) primary)

/-- Comparisons joined by words for logic. -/
def disjunction (s : Setting) (primary : Reader Shape) : Reader Shape :=
  let inversion := prefixed s (skipWord "not") (chained s skipComparison (arithmetic s primary))
  chained s (do if ← skipWord "and" then return true else skipWord "or") inversion

/-! ### Lists of expressions -/

/-- An expression, or a name that is given a value on the way. -/
def named (inner : Inner) (s : Setting) : Reader Shape := do
  match ← current, ← ahead with
  | some (.name _), some (.mark ":=") =>
    require (!s.inAnnotation && !s.inIterable)
    let _ ← binding
    advance
    let _ ← inner.whole s
    return .value
  | _, _ => inner.whole s

/-- What a star spreads out. -/
def spread (inner : Inner) (s : Setting) : Reader Shape := do
  return .starred (← arithmetic s (inner.primary s))

/-- An element of a list that is written out. -/
def element (inner : Inner) (s : Setting) : Reader Shape := do
  if ← skipMark "*" then spread inner s else named inner s

/-- Expressions with commas between them, without brackets. -/
def expressions (inner : Inner) (s : Setting) : Reader Shape := do
  let item : Reader Shape := do if ← skipMark "*" then spread inner s else inner.whole s
  match ← commaSeparated s startsExpression item with
  | ([only], false) => return only
  | (shapes, _) => return .items shapes

/-- Expressions of which a single one is not starred. -/
def valueExpressions (inner : Inner) (s : Setting) : Reader Shape := do
  unstarred (← expressions inner s)

/-- The values that a function yields. -/
def yielded (inner : Inner) (s : Setting) : Reader Shape := do
  expectWord "yield"
  require (s.inFunction && !s.inAnnotation)
  if ← skipWord "from" then
    require !s.inWaiting
    let _ ← inner.whole s
  else if ← startsExpression then
    let _ ← valueExpressions inner s
  return .value

/-- Targets of a loop with commas between them. -/
def loopTargets (inner : Inner) (s : Setting) : Reader Unit := do
  let item : Reader Shape := do if ← skipMark "*" then return .starred (← inner.primary s) else inner.primary s
  let shape ← match ← commaSeparated s startsExpression item with
    | ([only], false) => pure only
    | (shapes, _) => pure (Shape.items shapes)
  require shape.isTarget

/-! ### Comprehensions -/

/-- Is a clause of a comprehension at the front? -/
def seesClause : Reader Bool := do
  return (← seesWord "for") || ((← seesWord "async") && (← ahead) == some (.name "for"))

/-- The clauses of a comprehension; `lazy` says that its elements are made on demand, so that no function waits. -/
def clauses (inner : Inner) (s : Setting) (lazy : Bool) : Reader Unit := do
  require (← seesClause)
  repeated s do
    if ← seesClause then
      if ← skipWord "async" then require (lazy || s.inWaiting)
      expectWord "for"
      loopTargets inner s
      expectWord "in"
      let _ ← disjunction s (inner.primary s.iterable)
      repeated s do
        if ← skipWord "if" then
          let _ ← disjunction s (inner.primary s)
          return true
        else return false
      return true
    else return false

/-! ### Displays -/

/-- The rest of a group in parentheses. -/
def group (inner : Inner) (s : Setting) : Reader Shape := do
  if ← skipMark ")" then return .items []
  else if ← seesWord "yield" then
    let _ ← yielded inner s
    expectMark ")"
    return .value
  else
    let (shapes, comma) ← commaSeparated s startsExpression (element inner s)
    match shapes, comma with
    | [only], false =>
      let _ ← unstarred only
      if ← seesClause then
        clauses inner s true
        expectMark ")"
        return .value
      else
        expectMark ")"
        return only
    | _, _ =>
      expectMark ")"
      return .items shapes

/-- The rest of a list in brackets. -/
def listDisplay (inner : Inner) (s : Setting) : Reader Shape := do
  if ← skipMark "]" then return .items []
  else
    let (shapes, comma) ← commaSeparated s startsExpression (element inner s)
    if (← seesClause) && !comma then
      require !(shapes.any Shape.isStarred)
      clauses inner s false
      expectMark "]"
      return .value
    else
      expectMark "]"
      return .items shapes

/-- An entry of a table: a key and its value, or another table to take over. -/
def tableEntry (inner : Inner) (s : Setting) : Reader Unit := do
  if ← skipMark "**" then
    let _ ← arithmetic s (inner.primary s)
  else
    let _ ← inner.whole s
    expectMark ":"
    let _ ← inner.whole s

/-- What the first element in braces is. -/
inductive BraceForm
  | element (starred : Bool) | pair | table
  deriving DecidableEq, Repr, Inhabited

/-- The first element in braces. -/
def braceForm (inner : Inner) (s : Setting) : Reader BraceForm := do
  if ← skipMark "**" then
    let _ ← arithmetic s (inner.primary s)
    return .table
  else
    let isNamed := (← ahead) == some (.mark ":=")
    let first ← element inner s
    if !isNamed && !first.isStarred && (← skipMark ":") then
      let _ ← inner.whole s
      return .pair
    else return .element first.isStarred

/-- The rest of a set or table in braces. -/
def braceDisplay (inner : Inner) (s : Setting) : Reader Shape := do
  if ← skipMark "\x7d" then return .value
  else
    let form ← braceForm inner s
    if ← seesClause then
      require (form == .pair || form == .element false)
      clauses inner s false
    else
      let more : Reader Bool := do return (← startsExpression) || (← seesMark "**")
      let entry : Reader Unit :=
        match form with
        | .element _ => do
          let _ ← element inner s
        | _ => tableEntry inner s
      let _ ← commaTail s more entry
    expectMark "\x7d"
    return .value

/-! ### Calls and items -/

/-- What the arguments of a call have been so far. -/
structure Passed where
  keywords : List String
  sawTable : Bool
  /-- A comprehension without parentheses, which must be the only argument. -/
  sawLazy : Bool
  count : Nat
  deriving Inhabited

/-- One more argument of a call. -/
def argument (inner : Inner) (s : Setting) (p : Passed) :
    Reader Passed := do
  let p := { p with count := p.count + 1 }
  if ← skipMark "**" then
    let _ ← inner.whole s
    return { p with sawTable := true }
  else if ← skipMark "*" then
    require !p.sawTable
    let _ ← inner.whole s
    return p
  else if (← ahead) == some (.mark "=") then
    let keyword ← binding
    require !(p.keywords.contains keyword)
    advance
    let _ ← inner.whole s
    return { p with keywords := keyword :: p.keywords }
  else
    require (p.keywords.isEmpty && !p.sawTable)
    let _ ← named inner s
    if ← seesClause then
      clauses inner s true
      return { p with sawLazy := true }
    else return p

/-- The rest of a call. Only a call itself, not a class, may take a comprehension without parentheses. -/
def callArguments (inner : Inner) (s : Setting) (takesLazy : Bool) :
    Reader Unit := do
  let start : Passed := ⟨[], false, false, 0⟩
  let step (p : Passed × Bool) : Reader (Option (Passed × Bool)) := do
    if (← seesMark ")") || !p.2 then return none
    else
      let passed ← argument inner s p.1
      let comma ← skipMark ","
      require (!passed.sawLazy || (takesLazy && passed.count == 1 && !comma))
      return some (passed, comma)
  let _ ← iterate step (s.bound + 2) (start, true)
  expectMark ")"

/-- One expression, if one starts at the front. -/
def optionalExpression (inner : Inner) (s : Setting) : Reader Unit := do
  if ← startsExpression then
    let _ ← inner.whole s

/-- An index or a range of them. -/
def slice (inner : Inner) (s : Setting) : Reader Unit := do
  if ← skipMark "*" then
    let _ ← inner.whole s
  else
    let isNamed := (← ahead) == some (.mark ":=")
    let isRange ← do
      if ← seesMark ":" then pure true
      else
        let _ ← named inner s
        pure (!isNamed && (← seesMark ":"))
    if isRange then
      expectMark ":"
      optionalExpression inner s
      if ← skipMark ":" then optionalExpression inner s

/-- The rest of an item in brackets. -/
def subscript (inner : Inner) (s : Setting) : Reader Unit := do
  let more : Reader Bool := do return (← startsExpression) || (← seesMark ":")
  let _ ← commaSeparated s more (slice inner s)
  expectMark "]"

/-! ### Atoms -/

/-- Can the text of an expression to be filled in be read? -/
def isField (inner : Inner) (s : Setting) (text : List Char) : Bool :=
  match tokens? ('(' :: text ++ [')']) with
  | some (_ :: tokens) =>
    match (group inner s).run tokens with
    | some (_, [.newline]) => true
    | _ => false
  | _ => false

/-- One string literal or several in a row, which are all of bytes or all not. -/
def literals (inner : Inner) (s : Setting) (bytes : Bool) : Reader Shape := do
  repeated s do
    match ← current with
    | some (.literal kind fields) =>
      require (kind == bytes && fields.all (isField inner s))
      advance
      return true
    | _ => return false
  return .value

/-- An expression that no operator splits. -/
def atom (inner : Inner) (s : Setting) : Reader Shape := do
  match ← current with
  | some (.name text) =>
    if ["False", "None", "True"].contains text then
      advance
      return .value
    else return .name (← identifier)
  | some .number => advance; return .value
  | some (.literal bytes _) => literals inner s bytes
  | some (.mark "...") => advance; return .value
  | some (.mark "(") => advance; group inner s
  | some (.mark "[") => advance; listDisplay inner s
  | some (.mark "\x7b") => advance; braceDisplay inner s
  | _ => failure

/-- What follows an atom: attributes, calls and items. -/
def trailed (inner : Inner) (s : Setting) (first : Shape) : Reader Shape :=
  iterate (fun _ => do
    if ← skipMark "." then
      let _ ← identifier
      return some .place
    else if ← skipMark "(" then
      callArguments inner s true
      return some .value
    else if ← skipMark "[" then
      subscript inner s
      return some .place
    else return none) (s.bound + 1) first

/-! ### Functions without a name -/

/-- What the parameters of a function have been so far. -/
structure Parameters where
  names : List String
  sawDefault : Bool
  /-- A slash has ended the parameters that are passed by position only. -/
  sawSlash : Bool
  /-- A star has ended the parameters that can be passed by position. -/
  sawStar : Bool
  /-- A star without a name needs a parameter after it. -/
  needsName : Bool
  /-- The table of all other arguments ends the parameters. -/
  ended : Bool
  deriving Inhabited

/-- The annotation of a parameter, where there can be one. -/
def parameterAnnotation (inner : Inner) (s : Setting) (annotated spreads : Bool) : Reader Unit := do
  if annotated then
    if ← skipMark ":" then
      if spreads then
        let _ ← skipMark "*"
      let _ ← inner.whole s.annotation

/-- One more parameter. -/
def parameter (inner : Inner) (s : Setting) (annotated : Bool) (p : Parameters) :
    Reader Parameters := do
  require !p.ended
  if ← skipMark "/" then
    require (!p.sawSlash && !p.sawStar && !p.names.isEmpty)
    return { p with sawSlash := true }
  else if ← skipMark "**" then
    require !p.needsName
    let name ← binding
    parameterAnnotation inner s annotated false
    return { p with names := name :: p.names, ended := true }
  else if ← skipMark "*" then
    require !p.sawStar
    if ← seesMark "," then return { p with sawStar := true, needsName := true }
    else
      let name ← binding
      parameterAnnotation inner s annotated true
      return { p with names := name :: p.names, sawStar := true }
  else
    let name ← binding
    parameterAnnotation inner s annotated false
    let default ← skipMark "="
    if default then
      let _ ← inner.whole s
    require (default || p.sawStar || !p.sawDefault)
    return { p with names := name :: p.names, sawDefault := p.sawDefault || default, needsName := false }

/-- Parameters up to the mark that ends them. Their names are pairwise distinct. -/
def parameters (inner : Inner) (s : Setting) (annotated : Bool) (close : String) : Reader Unit := do
  let start : Parameters := ⟨[], false, false, false, false, false⟩
  let step (p : Parameters × Bool) : Reader (Option (Parameters × Bool)) := do
    if (← seesMark close) || !p.2 then return none
    else
      let read ← parameter inner s annotated p.1
      return some (read, ← skipMark ",")
  let (read, _) ← iterate step (s.bound + 2) (start, true)
  require (!read.needsName && read.names.eraseDups.length == read.names.length)
  expectMark close

/-! ### Expressions -/

/-- An atom with what follows it, of which a function may wait for the value. -/
def primary (inner : Inner) (s : Setting) : Reader Shape := do
  if ← skipWord "await" then
    require (s.inWaiting && !s.inAnnotation)
    let _ ← trailed inner s (← atom inner s)
    return .value
  else trailed inner s (← atom inner s)

/-- A function without a name, a choice between two values, or neither. -/
def conditional (inner : Inner) (s : Setting) : Reader Shape := do
  if ← skipWord "lambda" then
    parameters inner s false ":"
    let _ ← inner.whole (s.body false)
    return .value
  else
    let first ← disjunction s (primary inner s)
    if ← skipWord "if" then
      let _ ← disjunction s (primary inner s)
      expectWord "else"
      let _ ← inner.whole s
      return .value
    else return first

mutual

/-- Atoms with what follows them, with `room` levels to go. -/
def primaryWithin : Nat → Setting → Reader Shape
  | 0, _ => failure
  | room + 1, s => primary ⟨primaryWithin room, wholeWithin room⟩ s

/-- Expressions, with `room` levels to go. -/
def wholeWithin : Nat → Setting → Reader Shape
  | 0, _ => failure
  | room + 1, s => conditional ⟨primaryWithin room, wholeWithin room⟩ s

end

/-- The readers of expressions in a text of at most `size` characters, which bound the levels. -/
def expressionsOf (size : Nat) : Inner := ⟨primaryWithin (size + 1), wholeWithin (size + 1)⟩

end Reader

end SchemaBindings.Source
