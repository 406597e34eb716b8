import ApiProxy.Decimal.Shortest

/-! Numbers of a document. Whole numbers that fit 64 bits keep their value; all others become binary numbers.
The significand is collected in 64 bits, digits that no longer fit are dropped, and the result is scaled by
the power of ten. A number beyond the largest binary number has no value. -/

namespace ApiProxy.Json

open Decimal

inductive Number where
  | integer (value : Int)
  | real (isNegative : Bool) (magnitude : Binary64)
deriving DecidableEq, Repr

/-- A number as it is spelled: the digits of its parts, the most significant first. -/
structure Numeral where
  isNegative : Bool
  integer : List Nat
  fraction : Option (List Nat)
  exponent : Option (Bool × List Nat)
deriving DecidableEq, Repr

/-- Appends digits to a value for as long as it stays at or below a limit; the rest is handed back. -/
def collect (limit : Nat) (value : Nat) : List Nat → Nat × List Nat
  | [] => (value, [])
  | digit :: rest =>
    if value * 10 + digit ≤ limit then collect limit (value * 10 + digit) rest else (value, digit :: rest)

def largestWord : Nat := 0xFFFFFFFFFFFFFFFF

def largestExponent : Nat := 0x7FFFFFFF

/-- Scales by a power of ten in steps of at most 308, each step rounding once. -/
def scale (x : Binary64) (power : Int) : Nat → Option Binary64
  | 0 => some x
  | steps + 1 =>
    if power.natAbs ≤ 308 then
      (Binary64.nearest? (Nat.pow 10 power.natAbs) 1).bind fun ten =>
        if power ≥ 0 then x.times? ten else x.dividedBy? ten
    else if x.mantissa = 0 then some x
    else if power ≥ 0 then none
    else
      (Binary64.nearest? (Nat.pow 10 308) 1).bind fun ten =>
        (x.dividedBy? ten).bind fun smaller => scale smaller (power + 308) steps

def scaled (significand : Nat) (power : Int) : Option Binary64 :=
  (Binary64.nearest? significand 1).bind fun x => scale x power (power.natAbs / 308 + 1)

/-- Puts a power inside the range of a 32-bit exponent. -/
def clampPower (power : Int) : Int := max (-(largestExponent : Int) - 1) (min largestExponent power)

def Numeral.real? (numeral : Numeral) : Option Binary64 :=
  let (whole, dropped) := collect largestWord 0 numeral.integer
  let digits := numeral.fraction.getD []
  let (significand, unread) := collect largestWord whole digits
  let power : Int := dropped.length - (digits.length - unread.length : Nat)
  match numeral.exponent with
  | none => scaled significand power
  | some (isNegative, digits) =>
    match collect largestExponent 0 digits with
    | (size, []) => scaled significand (clampPower (if isNegative then power - size else power + size))
    | _ => if significand ≠ 0 && !isNegative then none else some Binary64.zero

def Numeral.value? (numeral : Numeral) : Option Number :=
  let real := numeral.real?.map (Number.real numeral.isNegative)
  match collect largestWord 0 numeral.integer, numeral.fraction, numeral.exponent with
  | (whole, []), none, none =>
    if !numeral.isNegative then some (.integer whole)
    else if 0 < whole && whole ≤ 0x8000000000000000 then some (.integer (-whole))
    else real
  | _, _, _ => real

def Number.describe : Number → String
  | .integer value => s!"integer `{value}`"
  | .real isNegative magnitude =>
    "floating point `" ++ (if isNegative then "-" else "") ++ (shortest magnitude).text ++ "`"

end ApiProxy.Json
