import PromptTree.Failure
import PromptTree.Numeral.Dyadic

/-!
# Generators of draws

A draw is a number from zero to one.  Seeded generators step a linear congruence of 31
bits; the older of the two computes the step in floating point and so loses low bits of
the product.  The third kind of generator takes its draws from a given sequence.

## Main Definitions

* `lcgStep` — the congruence.
* `Generator` — a generator with its state.
* `Generator.next` — a draw and the state after it.
* `Draw` — a computation that takes draws.

## Design Notes

The greatest state, divided by itself, gives the draw 1, so draws lie in a closed
interval.  A seed of the older generator that is too large for floating point makes its
first draw fail, and the state stays.
-/

namespace PromptTree.Random

/-- The factor of the congruence. -/
def multiplier : Nat := 1103515245

/-- The addend of the congruence. -/
def increment : Nat := 12345

/-- The number of states. -/
def modulus : Nat := 2147483648

/-- The state after a state. -/
def lcgStep (state : Nat) : Nat :=
  (state * multiplier + increment) % modulus

/-- The draw of a state. -/
def drawOf (state : Nat) : Float :=
  Float.ofNat state / Float.ofNat (modulus - 1)

/-- The integer part of a number. -/
def wholePart (x : Float) : Except Failure Int :=
  match Numeral.decode x with
  | .nan => .error .noNumber
  | .infinite _ => .error .infiniteNumber
  | .finite d => .ok d.truncate

/-- An integer as a floating point number. -/
def toNumber (n : Int) : Except Failure Float :=
  match Numeral.nearest? n with
  | some x => .ok x
  | none => .error .integerTooLarge

/-- The state after a state of the older generator, with a product that is rounded. -/
def roundedStep (state : Int) : Except Failure Nat := do
  let x ← toNumber state
  let n ← wholePart (x * Float.ofNat multiplier + Float.ofNat increment)
  return (n % Int.ofNat modulus).toNat

/-- A generator with its state. -/
inductive Generator where
  /-- The linear congruence. -/
  | congruential (state : Nat)
  /-- The congruence in floating point; its first state is the seed itself. -/
  | legacy (state : Int)
  /-- A sequence of draws, and how many were taken. -/
  | sequence (draws : Nat → Float) (taken : Nat)

namespace Generator

/-- The generator of a seed. -/
def seeded (seed : Int) : Generator :=
  .congruential (seed % Int.ofNat modulus).toNat

/-- The state of a seeded generator. -/
def state? : Generator → Option Int
  | .congruential state => some state
  | .legacy state => some state
  | .sequence _ _ => none

/-- A draw and the generator after it. -/
def next : Generator → Except Failure Float × Generator
  | .congruential state =>
    let after := lcgStep state
    (.ok (drawOf after), .congruential after)
  | .legacy state =>
    match roundedStep state with
    | .ok after => (.ok (drawOf after), .legacy after)
    | .error failure => (.error failure, .legacy state)
  | .sequence draws taken => (.ok (draws taken), .sequence draws (taken + 1))

end Generator

/-- A computation that takes draws.  What was drawn before a failure stays drawn. -/
abbrev Draw := ExceptT Failure (StateM Generator)

/-- One draw. -/
def draw : Draw Float := fun generator => generator.next

/-- Several draws. -/
def draws : Nat → Draw (List Float)
  | 0 => return []
  | count + 1 => do
    let x ← draw
    return x :: (← draws count)

end PromptTree.Random
