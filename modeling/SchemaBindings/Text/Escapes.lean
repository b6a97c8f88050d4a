/-!
# Escaped characters

Escapes give a character by a letter, or by its number in hexadecimal digits. Numbers of four digits give most
characters alone and the others by two surrogates. Digits are written in small letters and read in either case.
-/

namespace SchemaBindings.Text

/-! ### Writing digits -/

/-- The lower-case hexadecimal digit of a number below sixteen. -/
def hexDigit (n : Nat) : Char := if n < 10 then Char.ofNat (48 + n) else Char.ofNat (87 + n)

/-- The last `width` hexadecimal digits of a number. -/
def hexDigits : Nat → Nat → List Char
  | 0, _ => []
  | width + 1, n => hexDigits width (n / 16) ++ [hexDigit (n % 16)]

/-! ### Reading digits -/

/-- The value of a hexadecimal digit. -/
def hexValue? (c : Char) : Option Nat :=
  if c.isDigit then some (c.toNat - 48)
  else if 'a' ≤ c && c ≤ 'f' then some (c.toNat - 87)
  else if 'A' ≤ c && c ≤ 'F' then some (c.toNat - 55)
  else none

/-- Is the character a hexadecimal digit? -/
def isHexDigit (c : Char) : Bool := (hexValue? c).isSome

/-- The number that hexadecimal digits denote. -/
def hexNumber? (cs : List Char) : Option Nat :=
  cs.foldl (fun acc c => acc.bind fun n => (hexValue? c).map (16 * n + ·)) (some 0)

/-- The number of the four digits at the start. -/
def fourHex? (cs : List Char) : Option Nat :=
  let digits := cs.take 4
  if digits.length == 4 then hexNumber? digits else none

/-! ### Surrogates -/

/-- Surrogates are no characters, and the code points end at U+10FFFF. -/
def isScalar (n : Nat) : Bool := n < 0xD800 || (0xE000 ≤ n && n ≤ 0x10FFFF)

/-- Is the number a surrogate that comes first? -/
def isHighSurrogate (n : Nat) : Bool := 0xD800 ≤ n && n < 0xDC00

/-- Is the number a surrogate that comes second? -/
def isLowSurrogate (n : Nat) : Bool := 0xDC00 ≤ n && n < 0xE000

/-- The character of two surrogates. -/
def fromSurrogates (high low : Nat) : Char := Char.ofNat (0x10000 + 0x400 * (high - 0xD800) + (low - 0xDC00))

/-! ### Letters for control characters -/

/-- The character that a letter after a backslash stands for, in JSON as in schema text. -/
def letterEscape? : Char → Option Char
  | '"' => some '"'
  | '\\' => some '\\'
  | '/' => some '/'
  | 'b' => some '\x08'
  | 'f' => some '\x0c'
  | 'n' => some '\n'
  | 'r' => some '\r'
  | 't' => some '\t'
  | _ => none

end SchemaBindings.Text
