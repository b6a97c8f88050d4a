import SchemaBindings.Text.Escapes
import SchemaBindings.Text.Unprintable

/-!
# Quoted text

A text as a literal on one line: between single quotes, or between double quotes if it holds a single quote and no
double quote. The quote in use, the backslash and whatever is not printable are escaped.
-/

namespace SchemaBindings.Text

/-- Double quotes are used only where they save an escape. -/
def quoteMark (cs : List Char) : Char := if cs.contains '\'' && !cs.contains '"' then '"' else '\''

/-- One character between the marks. -/
def quotedChar (mark c : Char) : List Char :=
  if c == mark || c == '\\' then ['\\', c]
  else if c == '\n' then ['\\', 'n']
  else if c == '\r' then ['\\', 'r']
  else if c == '\t' then ['\\', 't']
  else if isPrintable c then [c]
  else if c.toNat < 0x100 then '\\' :: 'x' :: hexDigits 2 c.toNat
  else if c.toNat < 0x10000 then '\\' :: 'u' :: hexDigits 4 c.toNat
  else '\\' :: 'U' :: hexDigits 8 c.toNat

/-- The literal of a text. -/
def quotedChars (cs : List Char) : List Char :=
  let mark := quoteMark cs
  mark :: cs.flatMap (quotedChar mark) ++ [mark]

/-- The literal of a text. -/
def quoted (s : String) : String := String.ofList (quotedChars s.toList)

end SchemaBindings.Text
