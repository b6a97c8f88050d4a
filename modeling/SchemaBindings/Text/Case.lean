import SchemaBindings.Text.CaseMaps

/-!
# Upper and lower case

The full case maps: one character may become several. A capital sigma becomes a final sigma where it ends a word,
that is after a cased character and not before one, with case-ignorable characters skipped on both sides.
-/

namespace SchemaBindings.Text

/-- The full upper case of a character. -/
def upperOf (c : Char) : List Char :=
  if c.toNat < 0x80 then [c.toUpper]
  else match upperExpansions.lookup c.toNat with
    | some codes => codes.map Char.ofNat
    | none => [((shifted? upperShifts c.toNat).map Char.ofNat).getD c]

/-- The full lower case of a character, where a sigma is not final. -/
def lowerOf (c : Char) : List Char :=
  if c.toNat < 0x80 then [c.toLower]
  else match lowerExpansions.lookup c.toNat with
    | some codes => codes.map Char.ofNat
    | none => [((shifted? lowerShifts c.toNat).map Char.ofNat).getD c]

/-- Has the character a case? Letters that a search skips do not count. -/
def isCased (c : Char) : Bool :=
  if c.toNat < 0x80 then c.isAlpha else inRanges casedRanges c

/-- Does a search for a cased neighbour skip the character? -/
def isCaseIgnorable (c : Char) : Bool :=
  if c.toNat < 0x80 then ['\'', '.', ':', '^', '\x60'].contains c else inRanges caseIgnorableRanges c

/-- Is the first character that the search does not skip a cased one? -/
def casedNext (cs : List Char) : Bool := ((cs.dropWhile isCaseIgnorable).head?.map isCased).getD false

/-- Lower case of a text that follows `before`, which is given from its end. -/
def lowerFrom (before : List Char) : List Char → List Char
  | [] => []
  | c :: cs =>
    (if c == 'Σ' then (if casedNext before && !casedNext cs then ['ς'] else ['σ']) else lowerOf c) ++
      lowerFrom (c :: before) cs

/-- The full upper case of a text. -/
def upper (cs : List Char) : List Char := cs.flatMap upperOf

/-- The full lower case of a text. -/
def lower (cs : List Char) : List Char := lowerFrom [] cs

end SchemaBindings.Text
