import SchemaBindings.Text.Letters

/-!
# Word characters and identifiers

A word character is a letter, a numeral or the low line. An identifier follows Unicode's `XID_Start` and
`XID_Continue`, with the low line as a further start. Both are decided without the tables on ASCII.
-/

namespace SchemaBindings.Text

/-- Letters, numerals and the low line. -/
def isWord (c : Char) : Bool :=
  if c.toNat < 0x80 then c.isAlphanum || c == '_' else inRanges letterRanges c || inRanges numeralRanges c

/-- An ASCII letter or the low line. -/
def isNameStart (c : Char) : Bool := c.isAlpha || c == '_'

/-- An ASCII letter, an ASCII digit or the low line. -/
def isNameChar (c : Char) : Bool := c.isAlphanum || c == '_'

/-- May an identifier start with this character? -/
def startsIdentifier (c : Char) : Bool :=
  if c.toNat < 0x80 then isNameStart c
  else (inRanges letterRanges c && !inRanges identifierExcludedRanges c) || inRanges identifierStartRanges c

/-- May an identifier go on with this character? -/
def continuesIdentifier (c : Char) : Bool :=
  if c.toNat < 0x80 then isNameChar c else startsIdentifier c || inRanges identifierMarkRanges c

/-- A start character and then continuing ones. -/
def isIdentifier : List Char → Bool
  | [] => false
  | c :: cs => startsIdentifier c && cs.all continuesIdentifier

end SchemaBindings.Text
