/-! Non-negative binary numbers with 53 significant bits and exponents from -1074 to 971, kept as an integer
times a power of two. Every operation is the exact one followed by a single rounding to the nearest such
number, a tie going to the even neighbour; what lies beyond the largest number has no result. -/

namespace ApiProxy.Decimal

structure Binary64 where
  mantissa : Nat
  exponent : Int
deriving DecidableEq, Repr

namespace Binary64

def zero : Binary64 := ⟨0, -1074⟩

def divideToEven (num den : Nat) : Nat :=
  let quotient := num / den
  let remainder := num % den
  if 2 * remainder > den || (2 * remainder == den && quotient % 2 == 1) then quotient + 1 else quotient

/-- The fraction `num / den` divided by `2 ^ exponent`, again as a fraction. -/
def inUnits (num den : Nat) (exponent : Int) : Nat × Nat :=
  if exponent ≥ 0 then (num, den * Nat.pow 2 exponent.toNat) else (num * Nat.pow 2 (-exponent).toNat, den)

def nearest? (num den : Nat) : Option Binary64 :=
  if num = 0 then some zero
  else
    let guess : Int := max (-1074) ((num.log2 : Int) - den.log2 - 53)
    let fits (exponent : Int) : Bool :=
      let (n, d) := inUnits num den exponent
      n / d < Nat.pow 2 53
    let exponent := if fits guess then guess else guess + 1
    let (n, d) := inUnits num den exponent
    let mantissa := divideToEven n d
    let result : Binary64 := if mantissa = Nat.pow 2 53 then ⟨Nat.pow 2 52, exponent + 1⟩ else ⟨mantissa, exponent⟩
    if result.exponent > 971 then none else some result

/-- The number as a fraction of two naturals. -/
def fraction (x : Binary64) : Nat × Nat :=
  if x.exponent ≥ 0 then (x.mantissa * Nat.pow 2 x.exponent.toNat, 1)
  else (x.mantissa, Nat.pow 2 (-x.exponent).toNat)

def times? (x y : Binary64) : Option Binary64 :=
  nearest? (x.fraction.1 * y.fraction.1) (x.fraction.2 * y.fraction.2)

def dividedBy? (x y : Binary64) : Option Binary64 :=
  nearest? (x.fraction.1 * y.fraction.2) (x.fraction.2 * y.fraction.1)

end Binary64

end ApiProxy.Decimal
