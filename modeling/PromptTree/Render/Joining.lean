import PromptTree.Render.Run
import PromptTree.Separator.Builtin

/-!
# Joining rendered items

Which separator rules a name stands for, and how items are joined when there are none.

## Main Definitions

* `Resolver.findRules` — the rules of a name: built-in ones first, then stored ones.
* `joinNamed` — rendered items joined by the rules of a name.
-/

namespace PromptTree

/-- The rules of a name: built-in ones first, then stored ones. -/
def Resolver.findRules (resolver : Resolver) (id : String) :
    Except Failure (Option SeparatorRules) :=
  match Separator.builtin? id with
  | some rules => .ok (some rules)
  | none => (resolver.findSeparatorSet id).map (·.map Stored.body)

namespace World

/-- The rules of a name. -/
def findRules (world : World) (id : String) : Run (Option SeparatorRules) :=
  liftM (world.resolver.findRules id)

/-- Items joined with commas, where there are no rules. -/
def joinPlainly (items : List String) : String :=
  Text.join ", " items

/-- Rendered items joined by the rules of a name, or of the default name if it is missing or
empty.  Without rules they are joined with commas, and an issue is recorded. -/
def joinNamed (world : World) (id : Option String) (items : List String) : Run String := do
  let name := (id.filter (!·.isEmpty)).getD world.separatorSet
  match ← world.findRules name with
  | some rules => return rules.join items
  | none =>
    Run.warn (.separatorSetNotFound name)
    return joinPlainly items

end World

end PromptTree
