import SchemaBindings.Table

/-!
# JSON values

Objects keep the order of their members. Numbers with a fraction or an exponent are exact decimals; what they are
as binary numbers of double precision is decided by comparison.
-/

namespace SchemaBindings

/-- The number `digits * 10 ^ exponent`, with a sign. -/
structure Decimal where
  negative : Bool
  digits : Nat
  exponent : Int
  deriving DecidableEq, Repr, Inhabited

namespace Decimal

/-- One more than the exponent of the first digit; the number is below ten to this power. -/
def magnitude (d : Decimal) : Int := d.exponent + (Nat.toDigits 10 d.digits).length

/-- Is the number without its sign at most `n / m`? For numbers whose magnitude is moderate. -/
def atMost (d : Decimal) (n m : Nat) : Bool :=
  if 0 ≤ d.exponent then d.digits * Nat.pow 10 d.exponent.toNat * m ≤ n
  else d.digits * m ≤ n * Nat.pow 10 (-d.exponent).toNat

/-- Is the number without its sign at least `n / m`? For numbers whose magnitude is moderate. -/
def atLeast (d : Decimal) (n m : Nat) : Bool :=
  if 0 ≤ d.exponent then n ≤ d.digits * Nat.pow 10 d.exponent.toNat * m
  else n * Nat.pow 10 (-d.exponent).toNat ≤ d.digits * m

/-- Is zero the nearest double? Half of the least positive double still goes to zero. -/
def roundsToZero (d : Decimal) : Bool :=
  d.digits == 0 || d.magnitude < -400 || (d.magnitude < 0 && d.atMost 1 (Nat.pow 2 1075))

/-- Is one the nearest double? The neighbours lie `2 ^ -53` below and `2 ^ -52` above; one wins the ties. -/
def roundsToOne (d : Decimal) : Bool :=
  !d.negative && d.digits != 0 && 0 ≤ d.magnitude && d.magnitude ≤ 1 &&
    d.atLeast (Nat.pow 2 54 - 1) (Nat.pow 2 54) && d.atMost (Nat.pow 2 53 + 1) (Nat.pow 2 53)

end Decimal

/-- A JSON value, or one of the three numbers without digits. -/
inductive Json
  | null
  | bool (value : Bool)
  | int (value : Int)
  | real (value : Decimal)
  | notANumber
  | infinity (negative : Bool)
  | string (value : String)
  | array (items : List Json)
  | object (members : List (String × Json))
  deriving Repr, Inhabited

namespace Json

/-- The member of an object. -/
def get? (key : String) : Json → Option Json
  | object members => members.lookup key
  | _ => none

/-- The text of a string. -/
def string? : Json → Option String
  | string value => some value
  | _ => none

end Json

end SchemaBindings
