import SchemaBindings.Json.Basic
import SchemaBindings.Text.Escapes
import SchemaBindings.Text.Pieces

/-!
# Reading JSON

Strict JSON, with `NaN`, `Infinity` and `-Infinity` as further numbers. There are no comments, no trailing commas
and no surrogates that stand alone; the text ends with the value. At most two hundred containers that hold something
may lie inside one another.
-/

namespace SchemaBindings.Json

/-- Blanks between the parts of a value. -/
def isSpace (c : Char) : Bool := c == ' ' || c == '\n' || c == '\r' || c == '\t'

/-- Steps over blanks. -/
def skipSpace (cs : List Char) : List Char := cs.dropWhile isSpace

/-! ### Strings -/

/-- The character of an escape by number, and the text after it; a high surrogate needs a low one after it. -/
def unicodeEscape? (cs : List Char) : Option (Char × List Char) := do
  let high ← Text.fourHex? cs
  let rest := cs.drop 4
  if Text.isScalar high then return (Char.ofNat high, rest)
  else if Text.isHighSurrogate high then
    let more ← Text.after? ['\\', 'u'] rest
    let low ← Text.fourHex? more
    if Text.isLowSurrogate low then return (Text.fromSurrogates high low, more.drop 4) else none
  else none

/-- The characters up to the closing quote, at most `fuel` of them. -/
def stringChars : Nat → List Char → Option (List Char × List Char)
  | 0, _ => none
  | _, [] => none
  | fuel + 1, c :: cs =>
    if c == '"' then some ([], cs)
    else if c.toNat < 0x20 then none
    else if c == '\\' then do
      let (d, rest) ← match cs with
        | 'u' :: more => unicodeEscape? more
        | e :: more => (Text.letterEscape? e).map (·, more)
        | [] => none
      let (value, rest) ← stringChars fuel rest
      return (d :: value, rest)
    else do
      let (value, rest) ← stringChars fuel cs
      return (c :: value, rest)

/-- A string, after its opening quote. -/
def readString (cs : List Char) : Option (String × List Char) :=
  (stringChars (cs.length + 1) cs).map fun (value, rest) => (String.ofList value, rest)

/-! ### Numbers -/

/-- The number that decimal digits denote. -/
def digitsValue (cs : List Char) : Nat := cs.foldl (fun n c => 10 * n + (c.toNat - 48)) 0

/-- One decimal digit or more. -/
def someDigits (cs : List Char) : Option (List Char × List Char) :=
  let digits := cs.takeWhile Char.isDigit
  if digits.isEmpty then none else some (digits, cs.dropWhile Char.isDigit)

/-- The digits before the point: a zero stands alone. -/
def wholeDigits : List Char → Option (List Char × List Char)
  | '0' :: cs => if (cs.head?.map Char.isDigit).getD false then none else some (['0'], cs)
  | cs => someDigits cs

/-- The exponent after its letter. -/
def signedExponent (cs : List Char) : Option (Int × List Char) :=
  match cs with
  | '-' :: rest => (someDigits rest).map fun (digits, rest) => (-(digitsValue digits : Int), rest)
  | '+' :: rest => (someDigits rest).map fun (digits, rest) => ((digitsValue digits : Int), rest)
  | _ => (someDigits cs).map fun (digits, rest) => ((digitsValue digits : Int), rest)

/-- A number without its sign. -/
def unsignedNumber (negative : Bool) (cs : List Char) : Option (Json × List Char) := do
  let (whole, rest) ← wholeDigits cs
  let (fraction, rest) ← match rest with
    | '.' :: more => someDigits more
    | _ => some ([], rest)
  let (exponent, rest) ← match rest with
    | 'e' :: more | 'E' :: more => (signedExponent more).map fun (e, rest) => (some e, rest)
    | _ => some (none, rest)
  if fraction.isEmpty && exponent.isNone then
    let n : Int := digitsValue whole
    return (int (if negative then -n else n), rest)
  else
    let value : Decimal :=
      { negative, digits := digitsValue (whole ++ fraction),
        exponent := exponent.getD 0 - fraction.length }
    return (real value, rest)

/-- A number that starts with a sign or digit. -/
def readNumber (cs : List Char) : Option (Json × List Char) :=
  match cs with
  | '-' :: rest =>
    match Text.after? "Infinity".toList rest with
    | some rest => some (infinity true, rest)
    | none => unsignedNumber true rest
  | _ => unsignedNumber false cs

/-! ### Values -/

/-- How many containers that hold something may lie inside one another. -/
def maxNesting : Nat := 200

/-- A value without parts. -/
def readSimple (cs : List Char) : Option (Json × List Char) :=
  match cs with
  | '"' :: rest => (readString rest).map fun (value, rest) => (string value, rest)
  | 't' :: _ => (Text.after? "true".toList cs).map (bool true, ·)
  | 'f' :: _ => (Text.after? "false".toList cs).map (bool false, ·)
  | 'n' :: _ => (Text.after? "null".toList cs).map (null, ·)
  | 'N' :: _ => (Text.after? "NaN".toList cs).map (notANumber, ·)
  | 'I' :: _ => (Text.after? "Infinity".toList cs).map (infinity false, ·)
  | _ => readNumber cs

/-- Items up to the closing bracket, at most `fuel` of them. -/
def readItems (value : List Char → Option (Json × List Char)) : Nat → List Char → Option (List Json × List Char)
  | 0, _ => none
  | fuel + 1, cs => do
    let (item, rest) ← value (skipSpace cs)
    match skipSpace rest with
    | ']' :: rest => return ([item], rest)
    | ',' :: rest =>
      let (items, rest) ← readItems value fuel rest
      return (item :: items, rest)
    | _ => none

/-- Members up to the closing brace, at most `fuel` of them, added to those read before. A member given again keeps
its first place and takes the last value. -/
def readMembers (value : List Char → Option (Json × List Char)) (members : List (String × Json)) :
    Nat → List Char → Option (List (String × Json) × List Char)
  | 0, _ => none
  | fuel + 1, cs => do
    let quote :: rest := skipSpace cs | none
    if quote != '"' then none
    let (key, rest) ← readString rest
    let ':' :: rest := skipSpace rest | none
    let (item, rest) ← value (skipSpace rest)
    let members := assign key item members
    match skipSpace rest with
    | '\x7d' :: rest => return (members, rest)
    | ',' :: rest => readMembers value members fuel rest
    | _ => none

/-- A value, with `room` containers to go. -/
def readValue : Nat → List Char → Option (Json × List Char)
  | 0, cs => emptyOrSimple cs fun _ => none
  | room + 1, cs => emptyOrSimple cs fun rest =>
    match cs with
    | '[' :: _ => (readItems (readValue room) (rest.length + 1) rest).map fun (items, rest) => (array items, rest)
    | _ => (readMembers (readValue room) [] (rest.length + 1) rest).map fun (ms, rest) => (object ms, rest)
where
  emptyOrSimple (cs : List Char) (filled : List Char → Option (Json × List Char)) : Option (Json × List Char) :=
    match cs with
    | '[' :: rest =>
      match skipSpace rest with
      | ']' :: after => some (array [], after)
      | _ => filled rest
    | '\x7b' :: rest =>
      match skipSpace rest with
      | '\x7d' :: after => some (object [], after)
      | _ => filled rest
    | _ => readSimple cs

/-- The value that a text holds. -/
def ofText? (text : String) : Option Json := do
  let (value, rest) ← readValue maxNesting (skipSpace text.toList)
  if (skipSpace rest).isEmpty then return value else none

end SchemaBindings.Json
