import PromptTree.Engine.Batch

/-!
# Previews of separator rules

Sample items joined by rules that are given in full or by name.

## Main Definitions

* `coerceRules` — the rules that a value spells: a built-in name, or the rules in full.
* `previewSeparator` — sample items joined by these.
* `Engine.previewSeparator` — the same, where a name may also be that of a stored set.
-/

namespace PromptTree

open Separator

/-- The rules that a value spells: a built-in name, or the rules in full. -/
def coerceRules (v : Value) : Except PromptError SeparatorRules :=
  match v with
  | .str name =>
    match builtin? name with
    | some rules => .ok rules
    | none =>
      .error (.unknownRules name (builtinNames.mergeSort fun a b => decide (a ≤ b)))
  | v => (SeparatorRules.read v).toExcept.mapError .unreadableRules

/-- The texts of what a value consists of. -/
def sampleTexts (items : Value) : Except Failure (List String) :=
  match items.elements? with
  | some elements => (Value.list elements).writing.map fun _ => elements.map Value.plain
  | none => .error (.notIterable items.kindName)

/-- Sample items joined by the rules that a value spells. -/
def previewSeparator (rules items : Value) : Except Stop String := do
  let texts ← (sampleTexts items).mapError .failed
  let rules ← (coerceRules rules).mapError .refused
  return rules.join texts

/-- Sample items joined by the rules that a value spells, where a name may also be that of a
stored set. -/
def Engine.previewSeparator (engine : Engine) (rules items : Value) : Except Stop String :=
  match rules with
  | .str name =>
    match engine.resolver.findRules name with
    | .error failure => .error (.failed failure)
    | .ok (some rules) => (sampleTexts items).mapError .failed |>.map rules.join
    | .ok none => PromptTree.previewSeparator (.str name) items
  | rules => PromptTree.previewSeparator rules items

end PromptTree
