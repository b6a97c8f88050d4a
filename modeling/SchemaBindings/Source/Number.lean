import SchemaBindings.Source.Token
import SchemaBindings.Text.Escapes

/-!
# Number literals

Whole numbers are written with base ten, or with base sixteen, eight or two after a zero and a letter. Numbers of base
ten may have a fraction, an exponent and a letter for the imaginary unit. Low lines may stand between digits.
-/

namespace SchemaBindings.Source

/-- The text after a run of digits; a low line may go before each digit. -/
def afterMoreDigits (isDigit : Char → Bool) : List Char → List Char
  | '_' :: c :: cs => if isDigit c then afterMoreDigits isDigit cs else '_' :: c :: cs
  | c :: cs => if isDigit c then afterMoreDigits isDigit cs else c :: cs
  | [] => []

/-- The text after digits, of which there must be one. -/
def afterDigits? (isDigit : Char → Bool) : List Char → Option (List Char)
  | c :: cs => if isDigit c then some (afterMoreDigits isDigit cs) else none
  | [] => none

/-- Digits of base eight. -/
def isOctalDigit (c : Char) : Bool := '0' ≤ c && c ≤ '7'

/-- Digits of base two. -/
def isBinaryDigit (c : Char) : Bool := c == '0' || c == '1'

/-- The digits that a letter after a zero announces. -/
def digitsOfBase? (letter : Char) : Option (Char → Bool) :=
  match letter.toLower with
  | 'x' => some Text.isHexDigit
  | 'o' => some isOctalDigit
  | 'b' => some isBinaryDigit
  | _ => none

/-- The text after a number with a letter for its base. -/
def afterBased? : List Char → Option (List Char)
  | '0' :: letter :: cs => do
    let isDigit ← digitsOfBase? letter
    afterDigits? isDigit (match cs with
      | '_' :: rest => rest
      | _ => cs)
  | _ => none

/-- The text after an exponent, or all of it if there is none. -/
def afterExponent (cs : List Char) : List Char :=
  match cs with
  | e :: rest =>
    if e.toLower == 'e' then
      let unsigned := match rest with
        | '+' :: more => more
        | '-' :: more => more
        | _ => rest
      (afterDigits? Char.isDigit unsigned).getD cs
    else cs
  | [] => cs

/-- The text after a letter for the imaginary unit, or all of it if there is none. -/
def afterUnit (cs : List Char) : List Char :=
  match cs with
  | c :: rest => if c.toLower == 'j' then rest else cs
  | [] => cs

/-- May digits stand for a whole number? A zero at the start must not have other digits after it. -/
def isPlainWhole (digits : List Char) : Bool :=
  digits.head? != some '0' || digits.all fun c => c == '0' || c == '_'

/-- The text after a number at the front that starts with a digit, or with a point and a digit. -/
def afterNumber? (cs : List Char) : Option (List Char) :=
  match afterBased? cs with
  | some rest => some rest
  | none =>
    let afterWhole := (afterDigits? Char.isDigit cs).getD cs
    let afterFraction := match afterWhole with
      | '.' :: rest => (afterDigits? Char.isDigit rest).getD rest
      | _ => afterWhole
    let rest := afterUnit (afterExponent afterFraction)
    if rest.length == afterWhole.length && !isPlainWhole (cs.take (cs.length - rest.length)) then none else some rest

end SchemaBindings.Source
