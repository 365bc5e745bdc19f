/-! Finite binary numbers of 64 bits: the nearest one to a decimal numeral. -/

namespace IncludeRules

/-- The number ± mantissa · 2 ^ exponent. The mantissa is below 2 ^ 53, and not below 2 ^ 52 unless
the exponent is the least one. -/
structure Binary64 where
  negative : Bool
  mantissa : Nat
  exponent : Int
  deriving DecidableEq

namespace Binary64

def leastExponent : Int :=
  -1074

def greatestExponent : Int :=
  971

/-- The quotient rounded to the nearest whole number, a half going to the even neighbour. -/
def roundedQuotient (numerator denominator : Nat) : Nat :=
  let quotient := numerator / denominator
  let twice := 2 * (numerator % denominator)
  if twice < denominator ∨ (twice = denominator ∧ quotient % 2 = 0) then quotient else quotient + 1

/-- The mantissa of a fraction at a given exponent. -/
def mantissaAt (numerator denominator : Nat) (exponent : Int) : Nat :=
  if exponent < 0 then roundedQuotient (numerator * Nat.pow 2 exponent.natAbs) denominator
  else roundedQuotient numerator (denominator * Nat.pow 2 exponent.natAbs)

/-- The finite number nearest to a fraction, if the fraction is not too large for one. -/
def ofFraction? (negative : Bool) (numerator denominator : Nat) : Option Binary64 :=
  let guess : Int := (numerator.log2 : Int) - denominator.log2 - 53
  let settle (exponent : Int) : Int × Nat :=
    let e := max exponent leastExponent
    (e, mantissaAt numerator denominator e)
  let (e, m) :=
    match [guess, guess + 1, guess + 2].map settle |>.find? (·.2 < Nat.pow 2 53) with
    | some found => found
    | none => settle (guess + 2)
  let (e, m) := if m = Nat.pow 2 53 then (e + 1, Nat.pow 2 52) else (e, m)
  if e ≤ greatestExponent then some ⟨negative, m, e⟩ else none

/-- The finite number nearest to coefficient · 10 ^ scale. Scales far outside the range of all
numbers are decided by their size alone. -/
def ofDecimal? (negative : Bool) (coefficient : Nat) (scale : Int) : Option Binary64 :=
  let size : Int := (coefficient.log2 : Int) * 3 / 10 + scale
  if coefficient = 0 ∨ size < -400 then some ⟨negative, 0, leastExponent⟩
  else if size > 400 then none
  else if scale < 0 then ofFraction? negative coefficient (Nat.pow 10 scale.natAbs)
  else ofFraction? negative (coefficient * Nat.pow 10 scale.natAbs) 1

end Binary64

end IncludeRules
