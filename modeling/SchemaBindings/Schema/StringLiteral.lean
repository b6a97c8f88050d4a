import SchemaBindings.Schema.Token
import SchemaBindings.Text.Escapes
import SchemaBindings.Text.Pieces

/-!
# String literals of schema text

A quoted string ends on its line and knows escapes. A block string may span lines; its common indentation and its
blank lines at both ends do not belong to its value.
-/

namespace SchemaBindings.Schema

/-! ### Escapes -/

/-- Reads the digits of an escape in braces, `seen` of whose characters have been read. At most twelve characters
belong to it; the second part of the answer is their number. -/
def bracedDigits (point seen : Nat) : Nat → List Char → Option Nat × Nat
  | 0, _ => (none, seen)
  | _ + 1, [] => (none, seen)
  | room + 1, c :: cs =>
    if c == '\x7d' then (if 5 ≤ seen + 1 && Text.isScalar point then some point else none, seen + 1)
    else match Text.hexValue? c with
      | some d => bracedDigits (16 * point + d) (seen + 1) room cs
      | none => (none, seen + 1)

/-- Reads an escape at the backslash that `cs` starts with: the character and the number of characters read. -/
def readEscape (cs : List Char) : Except LexicalFault (Char × Nat) :=
  match cs.drop 1 with
  | 'u' :: '\x7b' :: digits =>
    match bracedDigits 0 3 9 digits with
    | (some n, size) => .ok (Char.ofNat n, size)
    | (none, size) => .error (.badUnicodeEscape (String.ofList (cs.take size)))
  | 'u' :: digits =>
    let fault := .error (.badUnicodeEscape (String.ofList (cs.take 6)))
    match Text.fourHex? digits with
    | none => fault
    | some high =>
      if Text.isScalar high then .ok (Char.ofNat high, 6)
      else match Text.isHighSurrogate high, digits.drop 4 with
        | true, '\\' :: 'u' :: trail =>
          match Text.fourHex? trail with
          | some low => if Text.isLowSurrogate low then .ok (Text.fromSurrogates high low, 12) else fault
          | none => fault
        | _, _ => fault
  | c :: _ =>
    match Text.letterEscape? c with
    | some d => .ok (d, 2)
    | none => .error (.badEscape (String.ofList (cs.take 2)))
  | [] => .error (.badEscape (String.ofList (cs.take 2)))

/-! ### Quoted strings -/

/-- Reads up to the closing quote, with at most `fuel` characters to go: the value and the text after the quote. -/
def readQuoted : Nat → List Char → Except LexicalFault (List Char × List Char)
  | 0, _ => .error .unterminated
  | _, [] => .error .unterminated
  | fuel + 1, c :: cs =>
    if c == '"' then .ok ([], cs)
    else if c == '\n' || c == '\r' then .error .unterminated
    else if c == '\\' then do
      let (d, size) ← readEscape (c :: cs)
      let (value, rest) ← readQuoted fuel (cs.drop (size - 1))
      return (d :: value, rest)
    else do
      let (value, rest) ← readQuoted fuel cs
      return (c :: value, rest)

/-! ### Block strings -/

/-- Reads up to the three closing quotes: the raw text and the text after them. -/
def readBlock : List Char → Except LexicalFault (List Char × List Char)
  | [] => .error .unterminated
  | '"' :: '"' :: '"' :: cs => .ok ([], cs)
  | '\\' :: '"' :: '"' :: '"' :: cs => do
    let (raw, rest) ← readBlock cs
    return ('"' :: '"' :: '"' :: raw, rest)
  | c :: cs => do
    let (raw, rest) ← readBlock cs
    return (c :: raw, rest)

/-- Indentation is made of spaces and tabs. -/
def isIndent (c : Char) : Bool := c == ' ' || c == '\t'

/-- Holds the line nothing but indentation? -/
def isBlankLine (line : List Char) : Bool := line.all isIndent

/-- The least indentation of the lines that are not blank. -/
def commonIndent (lines : List (List Char)) : Nat :=
  (((lines.filter (!isBlankLine ·)).map fun line => (line.takeWhile isIndent).length).min?).getD 0

/-- The lines after the first one lose their common indentation. -/
def dedent : List (List Char) → List (List Char)
  | [] => []
  | first :: others => first :: others.map (·.drop (commonIndent others))

/-- The value of the raw text between the quotes. -/
def blockValue (raw : List Char) : List Char :=
  let lines := (dedent (Text.lines raw)).map fun line => (isBlankLine line, line)
  let kept := ((lines.dropWhile (·.1)).reverse.dropWhile (·.1)).reverse
  ['\n'].intercalate (kept.map (·.2))

end SchemaBindings.Schema
