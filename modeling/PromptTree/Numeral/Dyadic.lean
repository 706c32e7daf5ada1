/-!
# Binary floating point as exact fractions

A finite binary64 number is an integer times a power of two.  Everything the
library does with such a number exactly — taking its integer part, comparing it
with an integer, finding its shortest decimal form — goes through this reading of
its bits.

## Main Definitions

* `Dyadic` — a sign, a natural mantissa and a binary exponent.
* `Decoded` — what the bits of a number say: no number, an infinity, or a `Dyadic`.
* `Dyadic.truncate`, `Dyadic.isIntegral`, `Dyadic.compareInt` — exact operations.
-/

namespace PromptTree.Numeral

/-- The number `mantissa * 2 ^ exponent`, negated if `negative`. -/
structure Dyadic where
  negative : Bool
  mantissa : Nat
  exponent : Int
  deriving Repr, DecidableEq

/-- The reading of a binary64 number. -/
inductive Decoded where
  | nan
  | infinite (negative : Bool)
  | finite (value : Dyadic)
  deriving Repr, DecidableEq

/-- A power of two. -/
def twoPower (exponent : Nat) : Nat :=
  Nat.pow 2 exponent

/-- Reads the sign bit, the eleven exponent bits and the fifty-two fraction bits. -/
def Decoded.ofBits (bits : Nat) : Decoded :=
  let negative := bits / twoPower 63 % 2 == 1
  let biased := bits / twoPower 52 % 2048
  let fraction := bits % twoPower 52
  if biased = 2047 then
    if fraction = 0 then .infinite negative else .nan
  else if biased = 0 then .finite ⟨negative, fraction, -1074⟩
  else .finite ⟨negative, fraction + twoPower 52, Int.ofNat biased - 1075⟩

/-- The reading of a number. -/
def decode (x : Float) : Decoded :=
  Decoded.ofBits x.toBits.toNat

namespace Dyadic

/-- The mantissa with its sign. -/
def signed (d : Dyadic) : Int :=
  if d.negative then -Int.ofNat d.mantissa else Int.ofNat d.mantissa

/-- The integer part, rounded toward zero. -/
def truncate (d : Dyadic) : Int :=
  if 0 ≤ d.exponent then d.signed * Int.ofNat (twoPower d.exponent.toNat)
  else Int.tdiv d.signed (Int.ofNat (twoPower (-d.exponent).toNat))

/-- Whether the number is an integer. -/
def isIntegral (d : Dyadic) : Bool :=
  0 ≤ d.exponent || d.mantissa % twoPower (-d.exponent).toNat == 0

/-- The exact comparison with an integer. -/
def compareInt (d : Dyadic) (n : Int) : Ordering :=
  if 0 ≤ d.exponent then compare (d.signed * Int.ofNat (twoPower d.exponent.toNat)) n
  else compare d.signed (n * Int.ofNat (twoPower (-d.exponent).toNat))

end Dyadic

/-- The exact comparison of a number with an integer; no number compares with nothing. -/
def compareInt? (x : Float) (n : Int) : Option Ordering :=
  match decode x with
  | .nan => none
  | .infinite negative => some (if negative then .lt else .gt)
  | .finite d => some (d.compareInt n)

/-- The integer a number is equal to. -/
def integer? (x : Float) : Option Int :=
  match decode x with
  | .finite d => if d.isIntegral then some d.truncate else none
  | _ => none

/-- The nearest binary64 number of an integer, if it is finite. -/
def nearest? (n : Int) : Option Float :=
  let x := Float.ofInt n
  match decode x with
  | .finite _ => some x
  | _ => none

end PromptTree.Numeral
