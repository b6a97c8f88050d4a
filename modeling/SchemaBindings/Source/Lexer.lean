import SchemaBindings.Source.Literal
import SchemaBindings.Text.Word

/-!
# From source text to tokens

`tokens?` cuts a module into tokens. Inside brackets lines run on. Elsewhere the end of each line that holds anything
is a token, and so is each change of the margin. A margin is compared in two ways, with tabs eight columns apart and
with tabs one column wide, which must agree.
-/

namespace SchemaBindings.Source

/-! ### Margins -/

/-- The width of the blanks before a line, with wide and with narrow tabs. -/
structure Margin where
  wide : Nat
  narrow : Nat
  deriving DecidableEq, Repr, Inhabited

namespace Margin

/-- No blanks. -/
def none : Margin := ⟨0, 0⟩

/-- The margin after one more blank. A form feed starts over. -/
def grow (m : Margin) (c : Char) : Margin :=
  if c == '\t' then ⟨(m.wide / 8 + 1) * 8, m.narrow + 1⟩
  else if c == '\x0c' then none
  else ⟨m.wide + 1, m.narrow + 1⟩

end Margin

/-- Blanks inside a line. -/
def isSpacing (c : Char) : Bool := c == ' ' || c == '\t' || c == '\x0c'

/-- How many margins may enclose a line. -/
def maxMargins : Nat := 99

/-- Leaves margins until one is no wider, and returns how many were left and those that remain. -/
def leaveMargins (m : Margin) : List Margin → Nat × List Margin
  | [] => (0, [])
  | top :: outer =>
    if m.wide < top.wide then
      let (count, rest) := leaveMargins m outer
      (count + 1, rest)
    else (0, top :: outer)

/-- The tokens for the margin of a line inside other margins, the innermost first, and the margins then. -/
def marginTokens? (m : Margin) (margins : List Margin) : Option (List Token × List Margin) :=
  let top := margins.headD .none
  if m.wide == top.wide then if m.narrow == top.narrow then some ([], margins) else none
  else if m.wide > top.wide then
    if m.narrow > top.narrow && margins.length < maxMargins then some ([.indent], m :: margins) else none
  else
    let (count, rest) := leaveMargins m margins
    if rest.headD .none == m then some (List.replicate count .dedent, rest) else none

/-! ### Lines -/

/-- What has been read so far. -/
structure Lexing where
  /-- The tokens, the last one first. -/
  tokens : List Token
  /-- The brackets that must close, the innermost first. -/
  brackets : List Char
  /-- The margins of the blocks, the innermost first. -/
  margins : List Margin
  deriving Inhabited

namespace Lexing

/-- Nothing has been read. -/
def start : Lexing := ⟨[], [], []⟩

/-- One more token. -/
def push (l : Lexing) (t : Token) : Lexing := { l with tokens := t :: l.tokens }

/-- Is the line still without a token? -/
def atLineStart (l : Lexing) : Bool :=
  match l.tokens with
  | [] | .newline :: _ | .indent :: _ | .dedent :: _ => true
  | _ => false

/-- The tokens at the end of the text, in which all brackets must be closed. -/
def finish? (l : Lexing) : Option (List Token) :=
  if l.brackets.isEmpty then
    let ended := if l.atLineStart then l.tokens else .newline :: l.tokens
    some (ended.reverse ++ List.replicate l.margins.length .dedent)
  else none

/-- Steps over a mark; brackets open and close. -/
def pushMark? (l : Lexing) (m : List Char) : Option Lexing :=
  let pushed := l.push (.mark (String.ofList m))
  match m with
  | [c] =>
    match closing? c with
    | some close =>
      if l.brackets.length < maxBrackets then some { pushed with brackets := close :: l.brackets } else none
    | none =>
      if isClosing c then
        match l.brackets with
        | open_ :: outer => if open_ == c then some { pushed with brackets := outer } else none
        | [] => none
      else some pushed
  | _ => some pushed

/-- Does the character belong to a name? All characters beyond ASCII do until the name is checked. -/
def isNamePart (c : Char) : Bool := Text.isNameChar c || c.toNat ≥ 0x80

/-- Reads the token at the front, which is neither blank nor the end of a line. -/
def readToken? (l : Lexing) (cs : List Char) : Option (Lexing × List Char) := do
  let c ← cs.head?
  let letters := cs.takeWhile isNamePart
  let afterLetters := cs.drop letters.length
  let quoted := afterLetters.head? == some '"' || afterLetters.head? == some '\''
  match if quoted then kindOfLetters? letters else none with
  | some kind =>
    let (token, rest) ← literal? kind afterLetters
    return (l.push token, rest)
  | none =>
    if c.isDigit || (c == '.' && ((cs.drop 1).head?.map Char.isDigit).getD false) then
      let rest ← afterNumber? cs
      return (l.push .number, rest)
    else if !letters.isEmpty then
      if Text.isIdentifier letters then return (l.push (.name (String.ofList letters)), afterLetters) else none
    else
      let (m, rest) ← mark? cs
      return (← l.pushMark? m, rest)

/-- The tokens of a text with at most `fuel` characters; `margin` is there while the margin of a line is measured. -/
def run : Nat → Option Margin → Lexing → List Char → Option (List Token)
  | 0, _, _, _ => none
  | _, _, l, [] => l.finish?
  | fuel + 1, some margin, l, c :: cs =>
    if isSpacing c then run fuel (some (margin.grow c)) l cs
    else if c == '\n' then run fuel (some .none) l cs
    else if c == '#' then run fuel (some margin) l (cs.dropWhile (· != '\n'))
    else do
      let (changes, margins) ← marginTokens? margin l.margins
      run fuel none { l with tokens := changes ++ l.tokens, margins } (c :: cs)
  | fuel + 1, none, l, c :: cs =>
    if isSpacing c then run fuel none l (cs.dropWhile isSpacing)
    else if c == '#' then run fuel none l (cs.dropWhile (· != '\n'))
    else if c == '\n' then
      if l.brackets.isEmpty then run fuel (some .none) (if l.atLineStart then l else l.push .newline) cs
      else run fuel none l cs
    else if c == '\\' then
      match cs with
      | '\n' :: d :: rest => run fuel none l (d :: rest)
      | _ => none
    else do
      let (l, rest) ← l.readToken? (c :: cs)
      run fuel none l rest

end Lexing

/-- The tokens of a module, unless it cannot be cut into tokens. -/
def tokens? (cs : List Char) : Option (List Token) :=
  if cs.contains '\x00' then none
  else
    let unified := Text.unifyLineEnds cs
    Lexing.run (2 * unified.length + 2) (some .none) .start unified

end SchemaBindings.Source
