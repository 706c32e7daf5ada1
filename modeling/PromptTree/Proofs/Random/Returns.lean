import PromptTree.Random.Source

/-!
# What computations with draws return

`Returns Good m P` says of a computation with a state, which may fail, that it leads from
good states to good states, and that what it returns has the property `P`.  It says nothing
of what a failure is, and is kept when computations are put together (`Returns.bind`).

For computations that take draws, a good state is a generator whose draws are all from zero
to one, now and later (`Generator.Bounded`).  This includes one itself, which the seeded
generators draw.

## Main Definitions

* `Generator.Bounded` — generators with draws from zero to one.
* `Returns` — properties of what computations return.
* `Source.Bounded` — sources of such draws.
-/

namespace PromptTree.Random

/-! ## Computations -/

section Computations

variable {σ α β : Type} {Good : σ → Prop} {P Q : α → Prop}

theorem bind_of_ok {m : ExceptT Failure (StateM σ) α} {f : α → ExceptT Failure (StateM σ) β}
    {s t : σ} {a : α} (h : m s = (.ok a, t)) : (m >>= f) s = f a t := by
  simp only [bind, ExceptT.bind, ExceptT.mk, StateT.bind, h, ExceptT.bindCont]

theorem bind_of_error {m : ExceptT Failure (StateM σ) α} {f : α → ExceptT Failure (StateM σ) β}
    {s t : σ} {failure : Failure} (h : m s = (.error failure, t)) :
    (m >>= f) s = (.error failure, t) := by
  simp only [bind, ExceptT.bind, ExceptT.mk, StateT.bind, h, ExceptT.bindCont]
  rfl

/-- The computation leads from good states to good states, and what it returns has a
property. -/
def Returns (Good : σ → Prop) (m : ExceptT Failure (StateM σ) α) (P : α → Prop) : Prop :=
  ∀ s, Good s → Good (m s).2 ∧ ∀ a, (m s).1 = .ok a → P a

namespace Returns

variable {m : ExceptT Failure (StateM σ) α}

theorem value {a : α} (h : P a) : Returns Good (pure a) P := by
  intro s hs
  refine ⟨hs, fun a' ha' => ?_⟩
  cases ha'
  exact h

theorem failure (failure : Failure) (P : α → Prop) : Returns Good (throw failure) P :=
  fun _ hs => ⟨hs, nofun⟩

theorem imp (h : Returns Good m P) (himp : ∀ a, P a → Q a) : Returns Good m Q :=
  fun s hs => ⟨(h s hs).1, fun a ha => himp a ((h s hs).2 a ha)⟩

theorem bind {f : α → ExceptT Failure (StateM σ) β} {R : β → Prop} (hm : Returns Good m P)
    (hf : ∀ a, P a → Returns Good (f a) R) : Returns Good (m >>= f) R := by
  intro s hs
  obtain ⟨hgood, hresult⟩ := hm s hs
  simp only [Bind.bind, ExceptT.bind, ExceptT.mk, StateT.bind]
  rcases hrun : m s with ⟨failure | a, t⟩
  · rw [hrun] at hgood
    exact ⟨hgood, nofun⟩
  · rw [hrun] at hgood hresult
    exact hf a (hresult a rfl) t hgood

theorem map {f : α → β} {R : β → Prop} (hm : Returns Good m P) (hf : ∀ a, P a → R (f a)) :
    Returns Good (do return f (← m)) R :=
  hm.bind fun a ha => value (hf a ha)

/-- A value that does not depend on the state. -/
theorem lift {x : Except Failure α} (h : ∀ a, x = .ok a → P a) :
    Returns Good (liftM x : ExceptT Failure (StateM σ) α) P := by
  cases x with
  | ok a => exact value (h a rfl)
  | error failure => exact .failure failure P

end Returns

end Computations

/-! ## Draws -/

namespace Generator

/-- The generator after a number of draws. -/
def after (generator : Generator) : Nat → Generator
  | 0 => generator
  | count + 1 => after generator.next.2 count

/-- **All draws are from zero to one**, whatever was drawn before. -/
def Bounded (generator : Generator) : Prop :=
  ∀ count x, (generator.after count).next.1 = .ok x → 0 ≤ x ∧ x ≤ 1

theorem Bounded.next {generator : Generator} (h : generator.Bounded) :
    generator.next.2.Bounded :=
  fun count => h (count + 1)

/-- A sequence of draws from zero to one. -/
theorem bounded_sequence {draws : Nat → Float} (h : ∀ index, 0 ≤ draws index ∧ draws index ≤ 1)
    (taken : Nat) : (Generator.sequence draws taken).Bounded := by
  intro count
  induction count generalizing taken with
  | zero =>
      intro x hx
      cases hx
      exact h taken
  | succ count ih => exact ih (taken + 1)

end Generator

theorem returns_draw : Returns Generator.Bounded draw fun x => 0 ≤ x ∧ x ≤ 1 :=
  fun _ h => ⟨h.next, h 0⟩

/-- **All draws of all nodes are from zero to one**: those of the generator that nodes share,
or those of the one that every node starts anew. -/
def Source.Bounded (source : Source) (generator : Generator) : Prop :=
  match source.nodeSeed? with
  | some seed => (Generator.legacy seed).Bounded
  | none => generator.Bounded

/-- What a node takes from a source is what it takes from a generator. -/
theorem Source.returns_drawFrom {source : Source} {α : Type} {take : Draw α} {P : α → Prop}
    (h : Returns Generator.Bounded take P) :
    Returns source.Bounded (source.drawFrom take) P := by
  intro generator hbounded
  unfold Source.Bounded at *
  unfold Source.drawFrom
  cases hseed : source.nodeSeed? with
  | some seed =>
      simp only [hseed] at hbounded ⊢
      exact ⟨hbounded, (h _ hbounded).2⟩
  | none =>
      simp only [hseed] at hbounded ⊢
      exact h generator hbounded

end PromptTree.Random
