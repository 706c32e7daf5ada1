import PromptTree.Numeral.Decimal

/-!
# Decimal text with a given precision

Numbers rounded to a count of places or of significant digits, a half to the even neighbour.

## Main Definitions

* `Dyadic.atScale` — a magnitude as a rounded multiple of a power of ten.
* `fixedText`, `exponentText`, `generalText` — with places after the point; with an exponent;
  with significant digits, in whichever of the two forms suits the size.
-/

namespace PromptTree.Numeral

/-- A quotient rounded to the nearest integer, a half to the even one. -/
def roundQuotient (num den : Nat) : Nat :=
  let below := num / den
  let rest := num % den
  if 2 * rest < den then below
  else if den < 2 * rest then below + 1
  else if below % 2 = 0 then below else below + 1

namespace Dyadic

/-- The magnitude as a fraction. -/
def fraction (d : Dyadic) : Nat × Nat :=
  if 0 ≤ d.exponent then (d.mantissa * twoPower d.exponent.toNat, 1)
  else (d.mantissa, twoPower (-d.exponent).toNat)

/-- The magnitude as a rounded multiple of a power of ten. -/
def atScale (d : Dyadic) (exponent : Int) : Nat :=
  let (num, den) := d.fraction
  let (p, q) := tenPower exponent
  roundQuotient (num * q) (den * p)

/-- The exponent of the first of some significant digits, and these as a number.  Rounding may
carry to one more digit, which raises the exponent. -/
def significant (d : Dyadic) (digits : Nat) : Int × Nat :=
  if d.mantissa = 0 then (0, 0)
  else
    let (num, den) := d.fraction
    let first := floorLogTen num den
    let scaled := d.atScale (first - Int.ofNat (digits - 1))
    if scaled < Nat.pow 10 digits then (first, scaled)
    else (first + 1, d.atScale (first + 1 - Int.ofNat (digits - 1)))

end Dyadic

/-- A number with at least a count of digits. -/
def paddedDigits (count n : Nat) : List Char :=
  let digits := Nat.toDigits 10 n
  zeros (count - digits.length) ++ digits

/-- Digits with a point before the last `places` of them.  A point with nothing after it is
shown on demand. -/
def withPoint (alwaysPoint : Bool) (places n : Nat) : List Char :=
  let digits := paddedDigits (places + 1) n
  let whole := digits.take (digits.length - places)
  let rest := digits.drop (digits.length - places)
  if places = 0 then (if alwaysPoint then whole ++ ['.'] else whole) else whole ++ '.' :: rest

/-- An exponent with its sign and at least two digits. -/
def exponentPart (exponent : Int) : List Char :=
  'e' :: (if exponent < 0 then '-' else '+') :: paddedDigits 2 exponent.natAbs

/-- A magnitude with a count of places after the point. -/
def fixedText (alwaysPoint : Bool) (places : Nat) (d : Dyadic) : List Char :=
  withPoint alwaysPoint places (d.atScale (-Int.ofNat places))

/-- A magnitude with one digit before the point, a count of places after it and an exponent. -/
def exponentText (alwaysPoint : Bool) (places : Nat) (d : Dyadic) : List Char :=
  let (exponent, digits) := d.significant (places + 1)
  withPoint alwaysPoint places digits ++ exponentPart exponent

/-- Digits without the zeros at their end, where a point is among them. -/
def trimZeros (cs : List Char) : List Char :=
  if cs.contains '.' then
    let shown := cs.reverse.dropWhile (· == '0')
    (if shown.head? == some '.' then shown.drop 1 else shown).reverse
  else cs

/-- A magnitude with a count of significant digits: with an exponent if that is less than -4
or not less than the count.  Zeros at the end are kept on demand. -/
def generalText (keepZeros : Bool) (digits : Nat) (d : Dyadic) : List Char :=
  let digits := max digits 1
  let (exponent, n) := d.significant digits
  let trim := fun cs => if keepZeros then cs else trimZeros cs
  if -4 ≤ exponent ∧ exponent < Int.ofNat digits then
    let places := (Int.ofNat (digits - 1) - exponent).toNat
    trim (withPoint keepZeros places (d.atScale (-Int.ofNat places)))
  else trim (withPoint keepZeros (digits - 1) n) ++ exponentPart exponent

end PromptTree.Numeral
