/-!
# Blank characters

Blanks are the white space characters of Unicode together with the four ASCII separators. A text is trimmed at both
ends, or collapsed, so that each run of blanks becomes one space.
-/

namespace SchemaBindings.Text

/-- Line breaks, tabs, the ASCII separators and the space characters of Unicode are blank; the zero width ones
(U+200B, U+FEFF) are not. -/
def isBlank (c : Char) : Bool :=
  let n := c.toNat
  (0x09 ≤ n && n ≤ 0x0D) || (0x1C ≤ n && n ≤ 0x20) || n == 0x85 || n == 0xA0 || n == 0x1680 ||
    (0x2000 ≤ n && n ≤ 0x200A) || n == 0x2028 || n == 0x2029 || n == 0x202F || n == 0x205F || n == 0x3000

/-- Without the blanks at the start. -/
def trimStart (cs : List Char) : List Char := cs.dropWhile isBlank

/-- Without the blanks at the end. -/
def trimEnd (cs : List Char) : List Char := (cs.reverse.dropWhile isBlank).reverse

/-- Without the blanks at either end. -/
def trim (cs : List Char) : List Char := trimEnd (trimStart cs)

/-- Collapses runs of blanks; `inRun` says that the character before was blank. -/
def collapseFrom (inRun : Bool) : List Char → List Char
  | [] => []
  | c :: cs =>
    if isBlank c then
      if inRun then collapseFrom true cs else ' ' :: collapseFrom true cs
    else c :: collapseFrom false cs

/-- Each run of blanks becomes one space. -/
def collapse (cs : List Char) : List Char := collapseFrom false cs

/-- The text without blanks at either end. -/
def stripped (s : String) : String := String.ofList (trim s.toList)

end SchemaBindings.Text
