import PromptTree.Numeral.Shortest

/-!
# Decimal text of numbers

The text of a binary64 number: its shortest digits, written positionally or with an
exponent as a style decides.

## Main Definitions

* `DecimalStyle` — where positional notation ends and how an exponent looks.
* `plainStyle`, `compactStyle` — the two styles in use.
* `write` — the text of a number that is finite.
-/

namespace PromptTree.Numeral

/-- The decisions of a decimal format. -/
structure DecimalStyle where
  /-- The least exponent that is written positionally. -/
  positionalFrom : Int
  /-- The least exponent above those that is written as an exponent. -/
  positionalBelow : Int
  /-- How many digits an exponent has at least. -/
  exponentWidth : Nat

/-- Exponents from -4 to 15 are positional, others have a sign and at least two digits. -/
def plainStyle : DecimalStyle := ⟨-4, 16, 2⟩

/-- Exponents from -5 to 15 are positional, others have a sign and no leading zeros. -/
def compactStyle : DecimalStyle := ⟨-5, 16, 1⟩

/-- A list of zeros. -/
def zeros (count : Nat) : List Char :=
  List.replicate count '0'

/-- The exponent mark and the exponent with its sign. -/
def DecimalStyle.exponentText (style : DecimalStyle) (exponent : Int) : List Char :=
  let digits := Nat.toDigits 10 exponent.natAbs
  let sign := if exponent < 0 then '-' else '+'
  'e' :: sign :: zeros (style.exponentWidth - digits.length) ++ digits

/-- Digits in a style.  A whole number keeps one place after the point. -/
def DecimalStyle.text (style : DecimalStyle) (digits : Digits) : List Char :=
  let all := Nat.toDigits 10 digits.coefficient
  let shown := (all.reverse.dropWhile (· == '0')).reverse
  let point := Int.ofNat all.length + digits.exponent
  let exponent := point - 1
  if style.positionalFrom ≤ exponent ∧ exponent < style.positionalBelow then
    if point ≤ 0 then '0' :: '.' :: zeros (-point).toNat ++ shown
    else
      let whole := shown.take point.toNat
      let rest := shown.drop point.toNat
      whole ++ zeros (point.toNat - shown.length) ++ '.' :: (if rest.isEmpty then ['0'] else rest)
  else
    match shown with
    | [] => ['0', '.', '0']
    | [d] => d :: style.exponentText exponent
    | d :: rest => d :: '.' :: rest ++ style.exponentText exponent

/-- The text of a finite number; zero keeps its sign. -/
def DecimalStyle.dyadicText (style : DecimalStyle) (d : Dyadic) : String :=
  let magnitude := if d.mantissa = 0 then ['0', '.', '0'] else style.text d.shortest
  String.ofList (if d.negative then '-' :: magnitude else magnitude)

/-- The text of a number, given the words for infinity and for no number. -/
def DecimalStyle.write (style : DecimalStyle) (infinity nan : String) (x : Float) : String :=
  match decode x with
  | .nan => nan
  | .infinite negative => if negative then "-" ++ infinity else infinity
  | .finite d => style.dyadicText d

end PromptTree.Numeral
