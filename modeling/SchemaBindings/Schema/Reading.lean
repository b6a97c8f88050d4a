import SchemaBindings.Schema.Document
import SchemaBindings.Schema.Lexer

/-!
# Reading tokens

A reader consumes tokens from the front of a list. The token at the front has always been read without a fault; a
reader that consumes it meets the fault of the next one, so that a lexical fault is reported before any complaint
about the grammar.
-/

namespace SchemaBindings.Schema

/-! ### Faults -/

/-- What the grammar asks for. -/
inductive Expectation
  | name
  | finish
  | mark (m : Mark)
  | word (text : String)
  deriving DecidableEq, Repr, Inhabited

/-- How a message shows an expectation. -/
def Expectation.text : Expectation → String
  | name => "Name"
  | finish => "<EOF>"
  | mark m => "'" ++ m.text ++ "'"
  | word text => "'" ++ text ++ "'"

/-- Why a text is no document. -/
inductive SyntaxFault
  | lexical (fault : LexicalFault)
  | unexpected (found : Token)
  | expected (what : Expectation) (found : Token)
  | reservedValue (found : Token)
  | variableInConstant (name : String)
  | describedQuery
  | describedOther
  | tooDeep
  deriving DecidableEq, Repr, Inhabited

/-- The wording of a syntax fault. -/
def SyntaxFault.message (fault : SyntaxFault) : String :=
  "Syntax Error: " ++ match fault with
    | lexical fault => fault.message
    | unexpected found => "Unexpected " ++ found.text ++ "."
    | expected what found => "Expected " ++ what.text ++ ", found " ++ found.text ++ "."
    | reservedValue found => found.text ++ " is reserved and cannot be used for an enum value."
    | variableInConstant name => "Unexpected variable '$" ++ name ++ "' in constant value."
    | describedQuery => "Unexpected description, descriptions are not supported on shorthand queries."
    | describedOther => "Unexpected description, only GraphQL definitions support descriptions."
    | tooDeep => "Document is nested too deeply. Parsing aborted."

/-! ### Readers -/

/-- A reader takes tokens from the front of a list. -/
abbrev Reader := StateT (List Token) (Except SyntaxFault)

namespace Reader

/-- The token at the front. -/
def current : Reader Token := do return (← get).headD .finish

/-- The token after the one at the front. -/
def ahead : Reader Token := do
  match (← get).drop 1 with
  | .malformed fault :: _ => throw (.lexical fault)
  | token :: _ => return token
  | [] => return .finish

/-- Steps over the token at the front. -/
def advance : Reader Unit := do
  let _ ← ahead
  modify (·.drop 1)

/-- Complains about the token at the front. -/
def unexpected {α : Type} : Reader α := do throw (.unexpected (← current))

/-- Is this mark at the front? -/
def atMark (m : Mark) : Reader Bool := do return (← current) == .mark m

/-- Is this word at the front? -/
def atWord (word : String) : Reader Bool := do return (← current) == .name word

/-- Is a description at the front? -/
def atDescription : Reader Bool := do
  match ← current with
  | .string _ | .blockString _ => return true
  | _ => return false

/-- Steps over a mark if it is at the front, and tells whether it was. -/
def skipMark (m : Mark) : Reader Bool := do
  if ← atMark m then advance; return true else return false

/-- Steps over a word if it is at the front, and tells whether it was. -/
def skipWord (word : String) : Reader Bool := do
  if ← atWord word then advance; return true else return false

/-- Steps over a mark that must be at the front. -/
def expectMark (m : Mark) : Reader Unit := do
  unless ← skipMark m do throw (.expected (.mark m) (← current))

/-- Steps over a word that must be at the front. -/
def expectWord (word : String) : Reader Unit := do
  unless ← skipWord word do throw (.expected (.word word) (← current))

/-- A name. -/
def name : Reader String := do
  match ← current with
  | .name text => advance; return text
  | found => throw (.expected .name found)

/-! ### Repetition -/

/-- Runs the reader until the mark, which ends the list, at most `fuel` times. -/
def repeatUntil {α : Type} (close : Mark) (item : Reader α) : Nat → Reader (List α)
  | 0 => unexpected
  | fuel + 1 => do
    if ← skipMark close then return []
    else
      let first ← item
      return first :: (← repeatUntil close item fuel)

/-- Any number of items up to the closing mark. Each takes a token at least, so the tokens bound their number. -/
def itemsUntil {α : Type} (close : Mark) (item : Reader α) : Reader (List α) := do
  repeatUntil close item ((← get).length + 1)

/-- One item or more between two marks. -/
def enclosed {α : Type} (opening close : Mark) (item : Reader α) : Reader (List α) := do
  expectMark opening
  let first ← item
  return first :: (← itemsUntil close item)

/-- One item or more between two marks, or nothing at all. -/
def optionalEnclosed {α : Type} (opening close : Mark) (item : Reader α) : Reader (List α) := do
  if ← atMark opening then enclosed opening close item else return []

/-- Items that each follow a mark, at most `fuel` of them. -/
def repeatAfter {α : Type} (separator : Mark) (item : Reader α) : Nat → Reader (List α)
  | 0 => return []
  | fuel + 1 => do
    if ← skipMark separator then
      let first ← item
      return first :: (← repeatAfter separator item fuel)
    else return []

/-- One item or more with marks between them; a mark may also stand before the first. -/
def separated {α : Type} (separator : Mark) (item : Reader α) : Reader (List α) := do
  let _ ← skipMark separator
  let first ← item
  return first :: (← repeatAfter separator item ((← get).length + 1))

/-- A description, if there is one. -/
def description : Reader (Option String) := do
  match ← current with
  | .string value | .blockString value => advance; return some value
  | _ => return none

end Reader

end SchemaBindings.Schema
