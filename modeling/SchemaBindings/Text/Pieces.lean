/-!
# Cutting text at separators

A text is cut at each separator, at the first one, or into lines. A line ends with a line feed, a carriage return or
both in this order; in the wide sense it also ends with any other line boundary of Unicode.
-/

namespace SchemaBindings.Text

/-- The parts between the separators; `n` separators give `n + 1` parts. -/
def partsBy (isSeparator : Char → Bool) : List Char → List (List Char)
  | [] => [[]]
  | c :: cs =>
    match partsBy isSeparator cs with
    | [] => [[c]]
    | p :: ps => if isSeparator c then [] :: p :: ps else (c :: p) :: ps

/-- The parts between the occurrences of one separator. -/
def parts (separator : Char) (cs : List Char) : List (List Char) := partsBy (· == separator) cs

/-- The texts before and after the first separator. -/
def cutFirst? (separator : Char) : List Char → Option (List Char × List Char)
  | [] => none
  | c :: cs =>
    if c == separator then some ([], cs)
    else (cutFirst? separator cs).map fun cut => (c :: cut.1, cut.2)

/-- The text after another that it starts with. -/
def after? : List Char → List Char → Option (List Char)
  | [], cs => some cs
  | _ :: _, [] => none
  | x :: xs, c :: cs => if x == c then after? xs cs else none

/-- The parts of a string. -/
def split (separator : Char) (s : String) : List String := (parts separator s.toList).map String.ofList

/-- Every line end becomes a line feed. -/
def unifyLineEnds : List Char → List Char
  | [] => []
  | '\r' :: '\n' :: cs => '\n' :: unifyLineEnds cs
  | c :: cs => (if c == '\r' then '\n' else c) :: unifyLineEnds cs

/-- The lines of a text. -/
def lines (cs : List Char) : List (List Char) := parts '\n' (unifyLineEnds cs)

/-- Line feeds, form feeds, the ASCII separators of files, groups and records, and the line ends of Unicode. -/
def isLineBoundary (c : Char) : Bool :=
  let n := c.toNat
  (0x0A ≤ n && n ≤ 0x0D) || (0x1C ≤ n && n ≤ 0x1E) || n == 0x85 || n == 0x2028 || n == 0x2029

/-- The lines of a text in the wide sense. A boundary at the very end starts no further line. -/
def wideLines (cs : List Char) : List (List Char) :=
  let all := partsBy isLineBoundary (unifyLineEnds cs)
  if all.getLast? == some [] then all.dropLast else all

end SchemaBindings.Text
