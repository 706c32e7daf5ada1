import PromptTree.Random.Generator

/-!
# Sources of draws

What the random nodes of a rendering draw from.  As a rule all share one generator.  In
the older way every node starts a generator of its own from the seed, so that nodes do
not influence each other.

## Main Definitions

* `Source` — a seed, if there is one, and the way of drawing.
* `Source.forOutput` — the source of one output of a batch.
* `Source.shared` — the generator that nodes share.
* `Source.drawFrom` — takes draws as one node does.
-/

namespace PromptTree.Random

/-- What random nodes draw from. -/
structure Source where
  seed : Option Int := none
  /-- Whether every node starts anew from the seed. -/
  reseeds : Bool := false
  deriving Repr, DecidableEq

namespace Source

/-- A source.  Without a seed there is nothing to start anew from. -/
def make (seed : Option Int) (reseeds : Bool) : Source :=
  ⟨seed, reseeds && seed.isSome⟩

/-- The source of an output of a batch, counted from zero: each has a seed of its own,
unless every node starts anew. -/
def forOutput (seed : Option Int) (index : Int) (reseeds : Bool) : Source :=
  match seed with
  | none => make none reseeds
  | some seed => if reseeds then make (some seed) true else make (some (seed + index)) false

/-- The generator that nodes share; without a seed it draws from a given sequence. -/
def shared (source : Source) (entropy : Nat → Float) : Generator :=
  match source.seed with
  | some seed => .seeded seed
  | none => .sequence entropy 0

/-- The seed that every node starts from. -/
def nodeSeed? (source : Source) : Option Int :=
  if source.reseeds then source.seed else none

/-- Takes draws as one node does: from the shared generator, or from one of its own that is
dropped afterwards. -/
def drawFrom {α : Type} (source : Source) (take : Draw α) : Draw α := fun generator =>
  match source.nodeSeed? with
  | some seed => ((take (.legacy seed)).1, generator)
  | none => take generator

end Source

end PromptTree.Random
