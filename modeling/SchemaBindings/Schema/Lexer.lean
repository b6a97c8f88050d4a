import SchemaBindings.Schema.StringLiteral
import SchemaBindings.Text.Word

/-!
# From characters to tokens

`tokens` cuts a text into its tokens. Blanks, commas, byte order marks and comments separate tokens. The list ends
with `finish`, or with the first fault, after which nothing is read.
-/

namespace SchemaBindings.Schema

/-- Characters between tokens. -/
def isIgnored (c : Char) : Bool :=
  c == ' ' || c == '\t' || c == ',' || c == '\n' || c == '\r' || c == '\uFEFF'

/-- Marks of one character. -/
def mark? : Char → Option Mark
  | '!' => some .bang
  | '$' => some .dollar
  | '&' => some .ampersand
  | '(' => some .parenL
  | ')' => some .parenR
  | ':' => some .colon
  | '=' => some .equals
  | '@' => some .atSign
  | '[' => some .bracketL
  | ']' => some .bracketR
  | '\x7b' => some .braceL
  | '|' => some .pipe
  | '\x7d' => some .braceR
  | _ => none

/-! ### Numbers -/

/-- One digit or more. -/
def readDigits (cs : List Char) : Except LexicalFault (List Char × List Char) :=
  let digits := cs.takeWhile Char.isDigit
  if digits.isEmpty then .error (.digitExpected cs.head?) else .ok (digits, cs.dropWhile Char.isDigit)

/-- Zero, or digits; a zero stands alone. -/
def readWhole : List Char → Except LexicalFault (List Char × List Char)
  | '0' :: cs => if (cs.head?.map Char.isDigit).getD false then .error (.digitAfterZero cs.head?) else .ok (['0'], cs)
  | cs => readDigits cs

/-- A point and digits, if there is a point. -/
def readFraction : List Char → Except LexicalFault (List Char × List Char)
  | '.' :: cs => do
    let (digits, rest) ← readDigits cs
    return ('.' :: digits, rest)
  | cs => .ok ([], cs)

/-- The letter `e`, a sign if there is one, and digits, if there is such a letter. -/
def readExponent : List Char → Except LexicalFault (List Char × List Char)
  | e :: cs =>
    if e == 'e' || e == 'E' then
      let (sign, afterSign) := match cs with
        | '+' :: rest => (['+'], rest)
        | '-' :: rest => (['-'], rest)
        | _ => ([], cs)
      do
        let (digits, rest) ← readDigits afterSign
        return (e :: sign ++ digits, rest)
    else .ok ([], e :: cs)
  | [] => .ok ([], [])

/-- A number; neither a point nor a name may follow at once. -/
def readNumber (cs : List Char) : Except LexicalFault (Token × List Char) := do
  let (sign, unsigned) := match cs with
    | '-' :: rest => (['-'], rest)
    | _ => ([], cs)
  let (whole, afterWhole) ← readWhole unsigned
  let (fraction, afterFraction) ← readFraction afterWhole
  let (exponent, rest) ← readExponent afterFraction
  if (rest.head?.map fun c => c == '.' || Text.isNameStart c).getD false then .error (.digitExpected rest.head?)
  else
    let text := String.ofList (sign ++ whole ++ fraction ++ exponent)
    return (if fraction.isEmpty && exponent.isEmpty then .int text else .float text, rest)

/-! ### Tokens -/

/-- Reads after a point: two more make a spread. -/
def readPoint : List Char → Except LexicalFault (Token × List Char)
  | '.' :: '.' :: cs => .ok (.mark .spread, cs)
  | '.' :: _ => .error .twoDots
  | cs =>
    let digits := cs.takeWhile Char.isDigit
    .error (if digits.isEmpty then .unexpected '.' else .leadingDot (String.ofList digits))

/-- The token that starts with the character `c`, which is neither ignored nor the start of a comment. -/
def readToken (c : Char) (cs : List Char) : Except LexicalFault (Token × List Char) :=
  if Text.isNameStart c then
    .ok (.name (String.ofList (c :: cs.takeWhile Text.isNameChar)), cs.dropWhile Text.isNameChar)
  else if c.isDigit || c == '-' then readNumber (c :: cs)
  else match mark? c, c, cs with
    | some m, _, _ => .ok (.mark m, cs)
    | none, '.', _ => readPoint cs
    | none, '"', '"' :: '"' :: rest => do
      let (raw, after) ← readBlock rest
      return (.blockString (String.ofList (blockValue raw)), after)
    | none, '"', _ => do
      let (value, rest) ← readQuoted (cs.length + 1) cs
      return (.string (String.ofList value), rest)
    | none, '\'', _ => .error .singleQuote
    | none, _, _ => .error (.unexpected c)

/-- Does the character not end a comment? -/
def inComment (c : Char) : Bool := c != '\n' && c != '\r'

/-- The tokens of a text of at most `fuel` characters. -/
def tokensFrom : Nat → List Char → List Token
  | 0, _ => [.finish]
  | _, [] => [.finish]
  | fuel + 1, c :: cs =>
    if isIgnored c then tokensFrom fuel cs
    else if c == '#' then tokensFrom fuel (cs.dropWhile inComment)
    else match readToken c cs with
      | .ok (token, rest) => token :: tokensFrom fuel rest
      | .error fault => [.malformed fault]

/-- The tokens of a text. -/
def tokens (text : String) : List Token :=
  let cs := text.toList
  tokensFrom (cs.length + 1) cs

end SchemaBindings.Schema
