import ApiProxy.Decimal.Binary64

/-! The fewest decimal digits that read back as a given binary number, and among those the nearest to it.
The text is positional for moderate magnitudes and scientific beyond; a whole number keeps `.0`. -/

namespace ApiProxy.Decimal

/-- A decimal number: the digits, as one natural number, times a power of ten. -/
structure Digits where
  value : Nat
  exponent : Int
deriving DecidableEq, Repr

/-- The power of ten of the leading digit of `num / den`. -/
def leadingPower (num den : Nat) : Int :=
  if num ≥ den then (toString (num / den)).length - 1
  else -(((List.range 400).find? fun k => num * Nat.pow 10 (k + 1) ≥ den).getD 0 + 1 : Nat)

/-- Whether the fraction `num / den` rounds to `x`, the ends of the interval counting for even mantissas. -/
def roundsTo (x : Binary64) (num den : Nat) : Bool :=
  let quarter (count : Nat) : Nat × Nat := Binary64.fraction ⟨count, x.exponent - 2⟩
  let isFirstOfOctave := x.mantissa = Nat.pow 2 52 && x.exponent > -1074
  let lowest := quarter (4 * x.mantissa - if isFirstOfOctave then 1 else 2)
  let highest := quarter (4 * x.mantissa + 2)
  let fromLowest : Int := num * lowest.2 - lowest.1 * den
  let toHighest : Int := highest.1 * den - num * highest.2
  if x.mantissa % 2 == 0 then 0 ≤ fromLowest && 0 ≤ toHighest else 0 < fromLowest && 0 < toHighest

/-- The neighbour of `x` with `count` digits that reads back as `x`, the nearer one if both do. -/
def withDigits? (x : Binary64) (power : Int) (count : Nat) : Option Digits :=
  let (num, den) := x.fraction
  let grid : Int := power + 1 - count
  let (unitNum, unitDen) : Nat × Nat :=
    if grid ≥ 0 then (Nat.pow 10 grid.toNat, 1) else (1, Nat.pow 10 (-grid).toNat)
  let lower := num * unitDen / (den * unitNum)
  let reads (value : Nat) : Bool := roundsTo x (value * unitNum) unitDen
  let twice := 2 * num * unitDen
  let middle := (2 * lower + 1) * den * unitNum
  if reads lower && (!reads (lower + 1) || twice ≤ middle) then some ⟨lower, grid⟩
  else if reads (lower + 1) then some ⟨lower + 1, grid⟩
  else none

/-- Moves the zeros at the end of the digits into the exponent. -/
def Digits.trimmed (digits : Digits) : Digits :=
  let text := (toString digits.value).toList
  let zeros := (text.reverse.takeWhile (· = '0')).length
  if digits.value = 0 then ⟨0, 0⟩ else ⟨digits.value / Nat.pow 10 zeros, digits.exponent + zeros⟩

def shortest (x : Binary64) : Digits :=
  if x.mantissa = 0 then ⟨0, 0⟩
  else
    let power := leadingPower x.fraction.1 x.fraction.2
    (((List.range 17).findSome? fun k => withDigits? x power (k + 1)).getD ⟨0, 0⟩).trimmed

def zeros (count : Int) : String := String.ofList (List.replicate count.toNat '0')

/-- Positional when the point falls between the fifth place after it and the sixteenth place before it. -/
def Digits.text (digits : Digits) : String :=
  let shown := toString digits.value
  let point : Int := shown.length + digits.exponent
  let scientific : String :=
    (if point - 1 < 0 then "e-" else "e+") ++ toString (point - 1).natAbs
  if digits.value = 0 then "0.0"
  else if 0 ≤ digits.exponent && point ≤ 16 then shown ++ zeros digits.exponent ++ ".0"
  else if 0 < point && point ≤ 16 then
    String.ofList (shown.toList.take point.toNat) ++ "." ++ String.ofList (shown.toList.drop point.toNat)
  else if -5 < point && point ≤ 0 then "0." ++ zeros (-point) ++ shown
  else if shown.length = 1 then shown ++ scientific
  else String.ofList (shown.toList.take 1) ++ "." ++ String.ofList (shown.toList.drop 1) ++ scientific

end ApiProxy.Decimal
