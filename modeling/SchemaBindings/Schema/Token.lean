import SchemaBindings.Text.Quoted

/-!
# Tokens of schema text

The lexical elements of schema text and the faults that a text can have below its grammar, with their wording.
-/

namespace SchemaBindings.Schema

/-- Punctuation. -/
inductive Mark
  | bang | dollar | ampersand | parenL | parenR | spread | colon | equals | atSign | bracketL | bracketR | braceL | pipe
  | braceR
  deriving DecidableEq, Repr, Inhabited

/-- A mark as it is written. -/
def Mark.text : Mark → String
  | bang => "!"
  | dollar => "$"
  | ampersand => "&"
  | parenL => "("
  | parenR => ")"
  | spread => "..."
  | colon => ":"
  | equals => "="
  | atSign => "@"
  | bracketL => "["
  | bracketR => "]"
  | braceL => "\x7b"
  | pipe => "|"
  | braceR => "\x7d"

/-- What is wrong with the characters of a text; `found` is the character in question, absent at the end. -/
inductive LexicalFault
  | unexpected (c : Char)
  | singleQuote
  | twoDots
  | leadingDot (digits : String)
  | digitAfterZero (found : Option Char)
  | digitExpected (found : Option Char)
  | unterminated
  | badEscape (text : String)
  | badUnicodeEscape (text : String)
  deriving DecidableEq, Repr, Inhabited

/-- A token; strings hold their value, and a fault takes the place of a token that cannot be read. -/
inductive Token
  | mark (m : Mark)
  | name (text : String)
  | int (text : String)
  | float (text : String)
  | string (value : String)
  | blockString (value : String)
  | finish
  | malformed (fault : LexicalFault)
  deriving DecidableEq, Repr, Inhabited

/-- An upper-case hexadecimal number of at least four digits. -/
def codePointText (n : Nat) : String :=
  let digits := (Nat.toDigits 16 n).map Char.toUpper
  String.ofList (List.replicate (4 - digits.length) '0' ++ digits)

/-- How a message shows a character: printable ASCII in quotes, else its code point. -/
def charText : Option Char → String
  | none => "<EOF>"
  | some c =>
    if c == '"' then "'\"'"
    else if ' ' ≤ c && c ≤ '~' then "'" ++ c.toString ++ "'"
    else "U+" ++ codePointText c.toNat

/-- The wording of a lexical fault. -/
def LexicalFault.message : LexicalFault → String
  | unexpected c => "Unexpected character: " ++ charText (some c) ++ "."
  | singleQuote => "Unexpected single quote character ('), did you mean to use a double quote (\")?"
  | twoDots => "Unexpected '..', did you mean '...'?"
  | leadingDot digits => "Invalid number, expected digit before '.', did you mean '0." ++ digits ++ "'?"
  | digitAfterZero found => "Invalid number, unexpected digit after 0: " ++ charText found ++ "."
  | digitExpected found => "Invalid number, expected digit but got: " ++ charText found ++ "."
  | unterminated => "Unterminated string."
  | badEscape text => "Invalid character escape sequence: '" ++ text ++ "'."
  | badUnicodeEscape text => "Invalid Unicode escape sequence: '" ++ text ++ "'."

/-- How a message shows a token. -/
def Token.text : Token → String
  | mark m => "'" ++ m.text ++ "'"
  | name text => "Name '" ++ text ++ "'"
  | int text => "Int '" ++ text ++ "'"
  | float text => "Float '" ++ text ++ "'"
  | string value => "String '" ++ value ++ "'"
  | blockString value => "BlockString '" ++ value ++ "'"
  | finish => "<EOF>"
  | malformed fault => fault.message

end SchemaBindings.Schema
