import PromptTree.Random.Generator
import PromptTree.Value.Basic

/-!
# Choices

Selections made by draws.  Each takes its draws first, as positions, and then acts as a
function of the positions alone.

## Main Definitions

* `uniformIndex`, `inclusiveRange` — a position below a size; an integer of a range.
* `bucket?`, `weightedIndex` — a position with a chance in proportion to its weight.
* `weightedIndexOf` — the same with weights that may be integers.
* `arrange`, `shuffle` — a rearrangement by positions; by draws.
* `pickFrom`, `sampleIndices` — positions taken from a shrinking pool; by draws.

## Design Notes

The search for a bucket is written for any arithmetic, so that it can be reasoned about
with exact numbers and run with floating point ones.
-/

namespace PromptTree.Random

/-! ## Positions -/

/-- The position that a draw stands for among a number of them, at most the last one. -/
def scaled (x : Float) (size : Int) : Except Failure Int := do
  let n ← wholePart (x * (← toNumber size))
  return min n (size - 1)

/-- A position below a size, each with the same chance. -/
def uniformIndex (size : Int) : Draw Int := do
  let x ← draw
  liftM (scaled x size)

/-- A position in a list of a given length. -/
def uniformPosition (size : Nat) : Draw Nat := do
  return (← uniformIndex size).toNat

/-- An integer from a low bound to a high one. -/
def inclusiveRange (low high : Int) : Draw Int := do
  return low + (← uniformIndex (high - low + 1))

/-! ## Weights -/

section Bucket

variable {α : Type} [OfNat α 0] [Add α] [Mul α] [LT α] [DecidableLT α]

/-- A weight, zero in place of a negative one. -/
def positivePart (weight : α) : α :=
  if weight < 0 then 0 else weight

/-- The sum of weights. -/
def totalWeight (weights : List α) : α :=
  weights.foldl (· + ·) 0

/-- The first position, counted from a given one, at which the sum of the weights so far
exceeds a target. -/
def bucketFrom (target sum : α) (position : Nat) : List α → Option Nat
  | [] => none
  | weight :: rest =>
    let sum := sum + weight
    if target < sum then some position else bucketFrom target sum (position + 1) rest

/-- The last position, counted from a given one, with a positive weight. -/
def lastPositiveFrom (position : Nat) : List α → Option Nat
  | [] => none
  | weight :: rest =>
    match lastPositiveFrom (position + 1) rest with
    | some last => some last
    | none => if 0 < weight then some position else none

/-- The position whose share of the total holds a draw.  A draw beyond all shares falls to
the last position that has one. -/
def bucket? (x : α) (weights : List α) : Option Nat :=
  let shares := weights.map positivePart
  match bucketFrom (x * totalWeight shares) 0 0 shares with
  | some position => some position
  | none => lastPositiveFrom 0 shares

end Bucket

/-- A position with a chance in proportion to its weight; none, and no draw, if the weights
add up to nothing. -/
def weightedIndex (weights : List Float) : Draw (Option Nat) := do
  if totalWeight (weights.map positivePart) ≤ 0 then return none
  else
    let x ← draw
    match bucket? x weights with
    | some position => return some position
    | none => throw .noPositiveWeight

/-- The floating point number of a number. -/
def asFloat : Number → Except Failure Float
  | .int n => toNumber n
  | .float x => .ok x

/-- The sum of two numbers; integers add up exactly. -/
def addNumbers (a b : Number) : Except Failure Number :=
  match a, b with
  | .int m, .int n => .ok (.int (m + n))
  | a, b => do return .float ((← asFloat a) + (← asFloat b))

/-- A weight of either kind, zero in place of a negative one. -/
def positiveShare (weight : Number) : Number :=
  if weight.less (.int 0) then .float 0 else weight

/-- A position with a chance in proportion to its weight, where weights are numbers of either
kind: their total is exact as long as they are integers. -/
def weightedIndexOf (weights : List Number) : Draw (Option Nat) := do
  let shares := weights.map positiveShare
  let total ← liftM (shares.foldlM addNumbers (.int 0))
  if total.atMost (.int 0) then return none
  else
    let x ← draw
    let limit ← liftM (asFloat total)
    let floats ← liftM (shares.mapM asFloat)
    match bucketFrom (x * limit) 0 0 floats with
    | some position => return some position
    | none =>
      match lastPositiveFrom 0 floats with
      | some position => return some position
      | none => throw .noPositiveWeight

/-! ## Arrangements -/

/-- Two items changed for each other. -/
def swap {α : Type} (i j : Nat) (items : List α) : List α :=
  match items[i]?, items[j]? with
  | some a, some b => (items.set i b).set j a
  | _, _ => items

/-- Rearranges items by positions: from the last item down, the item at each place is
changed for the one at the next position of the list. -/
def arrange {α : Type} : Nat → List Nat → List α → List α
  | place + 1, position :: positions, items =>
    arrange place positions (swap (place + 1) position items)
  | _, _, items => items

/-- The positions for the places from a given one down to the second. -/
def arrangement : Nat → Draw (List Nat)
  | 0 => return []
  | place + 1 => do
    let position ← uniformPosition (place + 2)
    return position :: (← arrangement place)

/-- A random rearrangement. -/
def shuffle {α : Type} (items : List α) : Draw (List α) := do
  let place := items.length - 1
  return arrange place (← arrangement place) items

/-! ## Samples -/

/-- Takes the items at positions out of a pool, one after the other. -/
def pickFrom {α : Type} : List Nat → List α → List α
  | [], _ => []
  | position :: positions, pool =>
    match pool[position]? with
    | some item => item :: pickFrom positions (pool.eraseIdx position)
    | none => []

/-- Positions in a pool that shrinks by one with each, at most as many as wanted. -/
def shrinkingPositions : Nat → Nat → Draw (List Nat)
  | 0, _ => return []
  | _, 0 => return []
  | wanted + 1, size + 1 => do
    let position ← uniformPosition (size + 1)
    return position :: (← shrinkingPositions wanted size)

/-- Positions in a pool that stays. -/
def repeatedPositions (size : Nat) : Nat → Draw (List Nat)
  | 0 => return []
  | wanted + 1 => do
    let position ← uniformPosition size
    return position :: (← repeatedPositions size wanted)

/-- Positions below a size, as many as wanted; without duplicates no more than there are. -/
def sampleIndices (size : Nat) (wanted : Int) (allowDuplicates : Bool) : Draw (List Nat) := do
  if size = 0 then return []
  else if allowDuplicates then repeatedPositions size wanted.toNat
  else return pickFrom (← shrinkingPositions wanted.toNat size) (List.range size)

end PromptTree.Random
