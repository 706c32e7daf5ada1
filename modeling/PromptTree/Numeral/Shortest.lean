import PromptTree.Numeral.Dyadic

/-!
# Shortest decimal digits

The fewest decimal digits that read back as a given binary64 number, and among
those the nearest to it.

## Main Definitions

* `Digits` — a whole number of digits times a power of ten.
* `Dyadic.shortest` — the shortest digits of a positive number.

## Design Notes

The reals that read back as the number form an interval, whose ends belong to it
iff the mantissa is even.  A grid of `k` digits holds a point of the interval iff it
holds one of the two neighbours of the number, so trying the two neighbours for
`k = 1, 2, …` finds the shortest form; seventeen digits always suffice.
-/

namespace PromptTree.Numeral

/-- The number `coefficient * 10 ^ exponent`. -/
structure Digits where
  coefficient : Nat
  exponent : Int
  deriving Repr, DecidableEq

/-- A power of ten as a fraction. -/
def tenPower (exponent : Int) : Nat × Nat :=
  if 0 ≤ exponent then (Nat.pow 10 exponent.toNat, 1) else (1, Nat.pow 10 (-exponent).toNat)

/-- The greatest `e` with `10 ^ e ≤ num / den`, for a positive fraction. -/
def floorLogTen (num den : Nat) : Int :=
  let estimate := Int.fdiv ((Int.ofNat num.log2 - Int.ofNat den.log2) * 30103) 100000
  let reaches (e : Int) : Bool :=
    let (p, q) := tenPower e
    p * den ≤ num * q
  if reaches (estimate + 1) then estimate + 1
  else if reaches estimate then estimate
  else if reaches (estimate - 1) then estimate - 1
  else estimate - 2

/-- The numbers that round to a positive dyadic number, as multiples of a quarter of its
last place. -/
structure Rounding where
  low : Nat
  value : Nat
  high : Nat
  closed : Bool
  scale : Int

/-- The interval of a number: half a place to each side, a quarter below a power of two
whose lower neighbour is closer. -/
def Dyadic.rounding (d : Dyadic) : Rounding :=
  let below := if d.mantissa = twoPower 52 ∧ -1074 < d.exponent then 1 else 2
  { low := 4 * d.mantissa - below, value := 4 * d.mantissa, high := 4 * d.mantissa + 2,
    closed := d.mantissa % 2 == 0, scale := d.exponent - 2 }

/-- The neighbour on the grid of `10 ^ exponent` that reads back, the nearer one of two and
the even one of two equally near. -/
def Rounding.onGrid (r : Rounding) (exponent : Int) : Option Nat :=
  let (p, q) := tenPower exponent
  let (up, down) :=
    if 0 ≤ r.scale then (twoPower r.scale.toNat * q, p)
    else (q, p * twoPower (-r.scale).toNat)
  -- a grid point `c` stands at `c * down`, a multiple `n` of the quarter place at `n * up`
  let lower := r.value * up / down
  let inside (c : Nat) : Bool :=
    if r.closed then r.low * up ≤ c * down && c * down ≤ r.high * up
    else r.low * up < c * down && c * down < r.high * up
  let belowGap := r.value * up - lower * down
  let aboveGap := (lower + 1) * down - r.value * up
  match inside lower, inside (lower + 1) with
  | true, true =>
    if belowGap < aboveGap then some lower
    else if aboveGap < belowGap then some (lower + 1)
    else some (if lower % 2 = 0 then lower else lower + 1)
  | true, false => some lower
  | false, true => some (lower + 1)
  | false, false => none

/-- The shortest digits of a positive number. -/
def Dyadic.shortest (d : Dyadic) : Digits :=
  let r := d.rounding
  let (num, den) :=
    if 0 ≤ r.scale then (r.value * twoPower r.scale.toNat, 1)
    else (r.value, twoPower (-r.scale).toNat)
  let top := floorLogTen num den
  let found := (List.range 17).findSome? fun k =>
    let exponent := top - Int.ofNat k
    (r.onGrid exponent).map fun c => (⟨c, exponent⟩ : Digits)
  found.getD ⟨d.mantissa, 0⟩

end PromptTree.Numeral
