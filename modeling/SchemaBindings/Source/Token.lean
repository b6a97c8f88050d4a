import SchemaBindings.Text.Pieces

/-!
# Tokens of generated source text

Names, literals and marks make up the lines of a module; the ends of lines and the changes of their margin are tokens
as well. Of a string literal only its kind and the expressions to be filled in are kept.
-/

namespace SchemaBindings.Source

/-- A token of source text. -/
inductive Token
  /-- An identifier or a reserved word. -/
  | name (text : String)
  | number
  /-- A string literal, of bytes or not, and the texts of the expressions that it fills in. -/
  | literal (bytes : Bool) (fields : List (List Char))
  /-- An operator or delimiter. -/
  | mark (text : String)
  /-- The end of a line. -/
  | newline
  /-- The margin grows. -/
  | indent
  /-- The margin shrinks. -/
  | dedent
  deriving DecidableEq, Repr, Inhabited

/-- Marks of three, two and one characters, in this order, so that the first one that fits is the longest. -/
def marks : List (List Char) :=
  ["**=", "//=", ">>=", "<<=", "...",
    "**", "//", ">>", "<<", "<=", ">=", "==", "!=", "->", "+=", "-=", "*=", "/=", "%=", "&=", "|=", "^=", "@=", ":=",
    "+", "-", "*", "/", "%", "@", "&", "|", "^", "~", "<", ">", "(", ")", "[", "]", "\x7b", "\x7d", ",", ":", ".",
    ";", "="].map String.toList

/-- The mark at the front and the text after it. -/
def mark? (cs : List Char) : Option (List Char × List Char) :=
  marks.findSome? fun m => (Text.after? m cs).map (m, ·)

/-- The bracket that closes another. -/
def closing? : Char → Option Char
  | '(' => some ')'
  | '[' => some ']'
  | '\x7b' => some '\x7d'
  | _ => none

/-- Does the character close a bracket? -/
def isClosing (c : Char) : Bool := c == ')' || c == ']' || c == '\x7d'

/-- How deep brackets may be nested. -/
def maxBrackets : Nat := 200

end SchemaBindings.Source
