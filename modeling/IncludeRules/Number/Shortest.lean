import IncludeRules.Number.Binary64

/-! The shortest decimal that is nearest to a binary number. -/

namespace IncludeRules

/-- The number coefficient · 10 ^ scale. -/
structure Decimal where
  coefficient : Nat
  scale : Int
  deriving DecidableEq

namespace Binary64

/-- The magnitude and the ends of the interval that rounds to it, all over one denominator. -/
structure Neighbourhood where
  low : Nat
  value : Nat
  high : Nat
  denominator : Nat
  /-- Both ends round to the number itself iff its mantissa is even. -/
  closed : Bool

/-- The gap below a power of two is half the gap above it. -/
def neighbourhood (x : Binary64) : Neighbourhood :=
  let narrow := x.mantissa = Nat.pow 2 52 ∧ x.exponent ≠ leastExponent
  let unit := if x.exponent < 0 then 1 else Nat.pow 2 x.exponent.natAbs
  { low := (4 * x.mantissa - if narrow then 1 else 2) * unit
    value := 4 * x.mantissa * unit
    high := (4 * x.mantissa + 2) * unit
    denominator := 4 * if x.exponent < 0 then Nat.pow 2 x.exponent.natAbs else 1
    closed := x.mantissa % 2 = 0 }

/-- The order of magnitude of a fraction: the least `k` with the fraction below 10 ^ k. -/
def magnitude (numerator denominator : Nat) : Int :=
  let below (k : Int) : Bool :=
    if k < 0 then numerator * Nat.pow 10 k.natAbs < denominator
    else numerator < denominator * Nat.pow 10 k.natAbs
  let guess : Int := ((numerator.log2 : Int) - denominator.log2 - 1) * 30103 / 100000 - 1
  match [guess, guess + 1, guess + 2, guess + 3].find? below with
  | some k => k
  | none => guess + 4

/-- The better of the two multiples of 10 ^ scale next to the number, if it rounds back to it. -/
def onGrid? (n : Neighbourhood) (scale : Int) : Option Nat :=
  let up := if scale < 0 then Nat.pow 10 scale.natAbs else 1
  let unit := n.denominator * if scale < 0 then 1 else Nat.pow 10 scale.natAbs
  let inside (c : Nat) : Bool :=
    if n.closed then n.low * up ≤ c * unit && c * unit ≤ n.high * up
    else n.low * up < c * unit && c * unit < n.high * up
  let floor := n.value * up / unit
  let below := n.value * up - floor * unit
  let above := (floor + 1) * unit - n.value * up
  let preferFloor := below < above || (below == above && floor % 2 == 0)
  match inside floor, inside (floor + 1) with
  | true, true => some (if preferFloor then floor else floor + 1)
  | true, false => some floor
  | false, true => some (floor + 1)
  | false, false => none

/-- The shortest decimal in the interval that rounds to the magnitude; of those of one length the
nearest. Seventeen digits always suffice. -/
def shortest (x : Binary64) : Decimal :=
  if x.mantissa = 0 then ⟨0, 0⟩
  else
    let n := x.neighbourhood
    let k := magnitude n.value n.denominator
    let tries := (List.range 17).filterMap fun i =>
      let scale := k - (i + 1 : Nat)
      (onGrid? n scale).map fun c => Decimal.mk c scale
    match tries with
    | d :: _ => d
    | [] => ⟨n.value / n.denominator, 0⟩

end Binary64

/-- Moves trailing zeros of the coefficient into the scale. `bound` is at least the number of
digits. -/
def Decimal.trimZeros (bound : Nat) (d : Decimal) : Decimal :=
  match bound with
  | 0 => d
  | n + 1 =>
    if d.coefficient ≠ 0 ∧ d.coefficient % 10 = 0 then trimZeros n ⟨d.coefficient / 10, d.scale + 1⟩
    else d

end IncludeRules
