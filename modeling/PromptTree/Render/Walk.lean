import PromptTree.Condition.Evaluate
import PromptTree.Content.Basic
import PromptTree.Format.Apply
import PromptTree.Random.Choice
import PromptTree.Render.Joining

/-!
# Rendering trees

The text of a tree.  A node renders its parts from left to right; what cannot be rendered
leaves an empty text or a documented substitute.

## Main Definitions

* `Expander` — how a reference to a section is rendered.
* `render` — the text of a tree, given how references are rendered.
* `World.expand` — the rendering of references up to a nesting of sections.
* `World.renderTree` — the text of a tree inside the sections being expanded.

## Design Notes

A tree is rendered by recursion on the tree, and a reference by recursion on the number of
sections that may still be nested, so that every rendering ends, whatever refers to what.

A node fails where the text of a value would be written that cannot be (`Value.writing`).
-/

namespace PromptTree

/-- How a reference to a section is rendered. -/
abbrev Expander := String → Bindings → Run String

/-! ## Leaves -/

/-- The text of a bound value in a format, the placeholder of the format if it is missing. -/
def variableText (format : Option Format) (v : Value) : String :=
  if v.isNull then (format.bind (·.placeholder)).getD ""
  else Format.applyIfAny format v.text

/-- The value of a context key: a whole namespace, or the entry that the rest of the key
names in it. -/
def contextValue (b : Bindings) (key : String) : Run Value := do
  let (category, rest) := Text.cut '.' key
  let name := rest.getD ""
  let namespaces : List (String × Entries) :=
    [("system", b.system), ("constraints", b.constraints), ("variables", b.vars)]
  match namespaces.lookup category with
  | none => return .null
  | some entries =>
    if name.isEmpty then return .object entries
    else
      if category = "variables" then Run.useVariable name
      return Entries.getD entries name

/-- Whether a count is that of a case; the word for more stands for every count above one. -/
def CaseCount.fits (count : Number) : CaseCount → Bool
  | .exactly n => (Number.int n).equals count
  | .zero => count.equals (.int 0)
  | .one => count.equals (.int 1)
  | .other => Number.less (.int 1) count

/-- The bindings of an item in a template: the item, its position from zero, and the entries
of an item that is an object. -/
def itemBindings (b : Bindings) (index : Nat) (item : Value) : Bindings :=
  let own : Entries := [("item", item), ("index", .int index)]
  b.withVariables (Entries.overlay own (item.entries?.getD []))

/-- The items of a variable that is a list with items. -/
def readItems (b : Bindings) (id : String) : Run (List Value) := do
  return ((← Run.readVariable b id).items?).getD []

/-- The values to draw from, and the format of the one that is drawn. -/
def drawPool (world : World) (b : Bindings) (pool : Option (List String))
    (poolVariable dataType : Option String) (format : Option Format) :
    Run (List String × Option Format) :=
  match pool, poolVariable.filter (!·.isEmpty), dataType.filter (!·.isEmpty) with
  | some values, _, _ => return (values, format)
  | none, some id, _ => do
    let items ← readItems b id
    liftM (Value.list items).writing
    return (items.map Value.text, format)
  | none, none, some id => do
    match ← world.findDataType id with
    | some type => return (type.body.enumValues, format.orElse fun _ => type.body.format)
    | none =>
      Run.warn (.dataTypeNotFound id)
      return ([], format)
  | none, none, none => return ([], format)

/-- The position of the candidate to pick, by weights if there is one for each. -/
def pickPosition (candidates : Nat) (weights : Option (List Float)) : Random.Draw Nat := do
  let weighted ←
    match weights with
    | some weights =>
      if weights.length = candidates then Random.weightedIndex weights else pure none
    | none => pure none
  match weighted with
  | some position => return position
  | none => Random.uniformPosition candidates

/-- The positions of the candidates to pick. -/
def pickPositions (candidates : Nat) (count : PickCount) (allowDuplicates : Bool) :
    Random.Draw (List Nat) := do
  let wanted ← match count with
    | .exactly n => pure n
    | .between low high => Random.inclusiveRange low high
  Random.sampleIndices candidates wanted allowDuplicates

/-- The first items of a shuffled list.  A count of zero keeps all, and a negative one leaves
out as many at the end. -/
def keepItems {α : Type} (count : Option Int) (items : List α) : List α :=
  match count with
  | none => items
  | some n =>
    if n = 0 then items
    else if 0 < n then items.take n.toNat
    else items.take (items.length - n.natAbs)

/-! ## Trees -/

mutual

/-- The text of a tree. -/
def render (world : World) (expand : Expander) : Content → Bindings → Run String
  | .text value, _ => return value
  | .variable id path format, b => do
    let v ← liftM ((← Run.readVariable b id).resolve path)
    liftM v.writing
    return variableText format v
  | .sectionRef id, b => expand id b
  | .composite parts, b => do
    return Text.join "" (← renderAll world expand parts b)
  | .conditional condition yes no, b => do
    if ← condition.evaluate b then render world expand yes b
    else renderOptional world expand no b
  | .list variableId separatorSet template, b => do
    let items ← readItems b variableId
    if items.isEmpty then return ""
    else
      match ← world.findRules separatorSet with
      | some rules => return rules.join (← renderItems world expand template 0 items b)
      | none =>
        Run.warn (.separatorSetNotFound separatorSet)
        liftM (Value.list items).writing
        return World.joinPlainly (items.map Value.text)
  | .context key fallback, b => do
    let v ← contextValue b key
    if v.isNull then renderOptional world expand fallback b
    else
      liftM v.writing
      return v.text
  | .plural countVariable forms, b => do
    let count := countOf (← Run.readVariable b countVariable)
    liftM count.writing
    return forms.render count
  | .article wordVariable word style capitalize, b => do
    match wordVariable.filter (!·.isEmpty) with
    | some id =>
      let v ← Run.readVariable b id
      liftM v.writing
      return Grammar.chooseArticle (if v.isTruthy then v.text else "") style capitalize
    | none =>
      let phrase ← renderOptional world expand word b
      return Grammar.chooseArticle phrase style capitalize
  | .countSwitch countVariable cases otherwise, b => do
    let count := countOf (← Run.readVariable b countVariable)
    match ← renderCountCase world expand count cases b with
    | some text => return text
    | none => renderOptional world expand otherwise b
  | .switch variableId cases otherwise, b => do
    let v ← Run.readVariable b variableId
    match ← renderValueCase world expand v cases b with
    | some text => return text
    | none => renderOptional world expand otherwise b
  | .pickOne candidates weights, b => do
    if candidates.isEmpty then return ""
    else
      let position ← world.take (pickPosition candidates.length weights)
      renderAt world expand candidates position b
  | .pickMany candidates count separatorSet allowDuplicates, b => do
    if candidates.isEmpty then return ""
    else
      let positions ← world.take (pickPositions candidates.length count allowDuplicates)
      let texts ← positions.mapM fun position => renderAt world expand candidates position b
      world.joinNamed separatorSet texts
  | .randomValue pool poolVariable dataType format, b => do
    let (values, format) ← drawPool world b pool poolVariable dataType format
    if values.isEmpty then return ""
    else
      let position ← world.take (Random.uniformPosition values.length)
      return Format.applyIfAny format (values.getD position "")
  | .weightedPick options, b => do
    if options.isEmpty then return ""
    else
      let weighted ← world.take (Random.weightedIndex (options.map Prod.fst))
      renderOption world expand options (weighted.getD (options.length - 1)) b
  | .shuffle variableId count separatorSet template, b => do
    let items ← readItems b variableId
    if items.isEmpty then return ""
    else
      let shuffled ← world.take (Random.shuffle items)
      let texts ← renderItems world expand template 0 (keepItems count shuffled) b
      world.joinNamed separatorSet texts
  | .unknown tag _, _ => do
    Run.warn (.unknownNode (tag.getD "None"))
    return ""

/-- The texts of trees, rendered in order. -/
def renderAll (world : World) (expand : Expander) : List Content → Bindings → Run (List String)
  | [], _ => return []
  | content :: rest, b => do
    let text ← render world expand content b
    return text :: (← renderAll world expand rest b)

/-- The text of a tree that may be missing. -/
def renderOptional (world : World) (expand : Expander) : Option Content → Bindings → Run String
  | none, _ => return ""
  | some content, b => render world expand content b

/-- The text of the tree at a position. -/
def renderAt (world : World) (expand : Expander) :
    List Content → Nat → Bindings → Run String
  | [], _, _ => return ""
  | content :: _, 0, b => render world expand content b
  | _ :: rest, position + 1, b => renderAt world expand rest position b

/-- The text of the option at a position. -/
def renderOption (world : World) (expand : Expander) :
    List (Float × Content) → Nat → Bindings → Run String
  | [], _, _ => return ""
  | (_, content) :: _, 0, b => render world expand content b
  | _ :: rest, position + 1, b => renderOption world expand rest position b

/-- The text of the first case that a count fits. -/
def renderCountCase (world : World) (expand : Expander) (count : Number) :
    List (CaseCount × Content) → Bindings → Run (Option String)
  | [], _ => return none
  | (label, content) :: rest, b => do
    if label.fits count then return some (← render world expand content b)
    else renderCountCase world expand count rest b

/-- The text of the first case that stands for a value. -/
def renderValueCase (world : World) (expand : Expander) (v : Value) :
    List (CaseValue × Content) → Bindings → Run (Option String)
  | [], _ => return none
  | (label, content) :: rest, b => do
    if label.toValue.strictEquals v then return some (← render world expand content b)
    else renderValueCase world expand v rest b

/-- The texts of items, through a template if there is one. -/
def renderItems (world : World) (expand : Expander) :
    Option Content → Nat → List Value → Bindings → Run (List String)
  | none, _, items, _ => do
    liftM (Value.list items).writing
    return items.map Value.text
  | some template, start, items, b =>
    (items.zipIdx start).mapM fun (item, index) =>
      render world expand template (itemBindings b index item)

end

/-! ## References -/

namespace World

/-- The rendering of a reference inside the sections being expanded.  `deeper` renders the
references in the section that is found; without it no section may be entered. -/
def expandWith (world : World) (deeper : Option (List String → Expander))
    (stack : List String) : Expander := fun id b => do
  match ← world.findSection id with
  | none =>
    Run.warn (.sectionNotFound id)
    return ""
  | some found =>
    let key := found.identity.scopedId
    if stack.contains key then
      Run.warn (.cycle stack key)
      return ""
    else
      match deeper with
      | none =>
        Run.warn (.tooDeep world.depthLimit id)
        return ""
      | some deeper =>
        Run.useSection id
        Run.within key (render world (deeper (stack ++ [key])) found.body.content b)

/-- The rendering of references where so many sections may still be entered. -/
def expand (world : World) : Nat → List String → Expander
  | 0, stack => world.expandWith none stack
  | room + 1, stack => world.expandWith (some (world.expand room)) stack

/-- How many sections may still be entered inside those being expanded. -/
def room (world : World) (stack : List String) : Nat :=
  (world.depthLimit - stack.length).toNat

/-- The text of a tree inside the sections being expanded. -/
def renderTree (world : World) (stack : List String) (content : Content) (b : Bindings) :
    Run String :=
  render world (world.expand (world.room stack) stack) content b

/-- The text of a value that was never read as a tree: none, since it has no known kind. -/
def renderUnread (v : Value) : Run String := do
  let tag := (v.entries?.map fun entries => Entries.getD entries "type").getD .null
  liftM tag.writing
  Run.warn (.unknownNode tag.plain)
  return ""

end World

end PromptTree
