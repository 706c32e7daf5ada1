import PromptTree.Proofs.Random.Choice
import PromptTree.Render.Walk

/-!
# The meaning of trees

What texts a tree may be rendered to, apart from any generator: a node that chooses at
random stands for each of its choices.

`Denotes world stack content b text` says that `text` is one of them, for a tree inside the
sections `stack`, with the values that the bindings `b` give.  There is a rule for each way
in which a node comes to a text.  Nodes that do not choose have the texts of their parts,
in their order, put together as the kind of the node says; a reference has those of the
section it leads to.

## Main Definitions

* `Run.Gives` — what lookups return.
* `MayPick`, `MayPickWeighted`, `MayPickMany`, `MayShow` — the choices of the random nodes.
* `Denotes`, `DenotesAll` — the texts of a tree, and of several trees in order.
-/

namespace PromptTree

/-- The run returns a value, whatever was recorded before. -/
def Run.Gives {α : Type} (m : Run α) (a : α) : Prop :=
  ∀ s, (m s).1 = .ok a

/-! ## Parts -/

namespace Content

/-- A part that may be missing; what is missing has the empty text. -/
def orEmpty (part : Option Content) : Content :=
  part.getD (.text "")

/-- The content of the first case that fits, or what stands for all others. -/
def caseFor {α : Type} (fits : α → Bool) (cases : List (α × Content))
    (otherwise : Option Content) : Content :=
  match cases.find? fun p => fits p.1 with
  | some p => p.2
  | none => orEmpty otherwise

/-- The content of an item: the template, or without one the text of the item. -/
def ofItem (template : Option Content) (item : Value) : Content :=
  template.getD (.text item.text)

/-- Items as trees, each with its bindings. -/
def ofItems (template : Option Content) (items : List Value) (b : Bindings) :
    List (Content × Bindings) :=
  items.zipIdx.map fun p => (ofItem template p.1, itemBindings b p.2 p.1)

end Content

/-- The items of a variable; there are none if it is no list. -/
def Bindings.itemsOf (b : Bindings) (id : String) : List Value :=
  (b.variableOf id).items?.getD []

/-! ## Choices -/

/-- The candidate at a position may be picked: any one, but if there is a weight for each
and one of them is above zero, only one with such a weight. -/
def MayPick (size : Nat) (weights : Option (List Float)) (position : Nat) : Prop :=
  position < size ∧ ∀ given, weights = some given → given.length = size →
    (∃ weight ∈ given, 0 < weight) → ∃ weight, given[position]? = some weight ∧ 0 < weight

/-- The option at a position may be picked: one with a weight above zero, and the last one
if there are none. -/
def MayPickWeighted (weights : List Float) (position : Nat) : Prop :=
  (∃ weight, weights[position]? = some weight ∧ 0 < weight) ∨
    (∀ weight ∈ weights, ¬ 0 < weight) ∧ position + 1 = weights.length

/-- A number of picks that a count stands for. -/
def PickCount.Admits : PickCount → Int → Prop
  | .exactly n, wanted => wanted = n
  | .between low high, wanted => low ≤ wanted ∧ wanted ≤ high

/-- The candidates at positions may be picked together: as many as the count says with
duplicates, and without them no position twice, and no more than there are. -/
def MayPickMany (size : Nat) (count : PickCount) (allowDuplicates : Bool)
    (positions : List Nat) : Prop :=
  ∃ wanted, count.Admits wanted ∧
    if allowDuplicates then positions.length = wanted.toNat
    else positions.Nodup ∧ positions.length = min wanted.toNat size

/-- How many items of a shuffled list are kept: all without a count, or with the count zero.
A count below zero, which no document needs, leaves out as many. -/
def keptLength (count : Option Int) (size : Nat) : Nat :=
  match count with
  | none => size
  | some n => if n = 0 then size else if 0 < n then min n.toNat size else size - n.natAbs

/-- The items at positions may be shown by a shuffle: no position twice, and as many as the
count says. -/
def MayShow (size : Nat) (count : Option Int) (positions : List Nat) : Prop :=
  positions.Nodup ∧ positions.length = keptLength count size

/-! ## Texts -/

section Texts

variable (world : World)

mutual

/-- **The meaning of a tree**: the texts that it may be rendered to. -/
inductive Denotes : List String → Content → Bindings → String → Prop where
  | text {stack b} (value : String) : Denotes stack (.text value) b value
  | bound {stack b id path format v} (value : (b.variableOf id).resolve path = .ok v) :
    Denotes stack (.variable id path format) b (variableText format v)
  | noSection {stack b id} (missing : world.resolver.findSection id = .ok none) :
    Denotes stack (.sectionRef id) b ""
  | cut {stack b id found} (find : world.resolver.findSection id = .ok (some found))
    (full : found.identity.scopedId ∈ stack ∨ world.depthLimit ≤ stack.length) :
    Denotes stack (.sectionRef id) b ""
  | section {stack b id found text} (find : world.resolver.findSection id = .ok (some found))
    (fresh : found.identity.scopedId ∉ stack) (room : stack.length < world.depthLimit)
    (content : Denotes (stack ++ [found.identity.scopedId]) found.body.content b text) :
    Denotes stack (.sectionRef id) b text
  | composite {stack b parts texts}
    (all : DenotesAll stack (parts.map fun part => (part, b)) texts) :
    Denotes stack (.composite parts) b (Text.join "" texts)
  | conditional {stack b condition yes no holds text}
    (decided : (condition.evaluate b).Gives holds)
    (branch : Denotes stack (if holds then yes else .orEmpty no) b text) :
    Denotes stack (.conditional condition yes no) b text
  | listEmpty {stack b id set template} (empty : b.itemsOf id = []) :
    Denotes stack (.list id set template) b ""
  | list {stack b id set template rules texts} (filled : b.itemsOf id ≠ [])
    (named : (world.findRules set).Gives (some rules))
    (all : DenotesAll stack (Content.ofItems template (b.itemsOf id) b) texts) :
    Denotes stack (.list id set template) b (rules.join texts)
  | listPlain {stack b id set template} (filled : b.itemsOf id ≠ [])
    (unnamed : (world.findRules set).Gives none) :
    Denotes stack (.list id set template) b
      (World.joinPlainly ((b.itemsOf id).map Value.text))
  | context {stack b key fallback v text} (value : (contextValue b key).Gives v)
    (shown : Denotes stack (if v.isNull then .orEmpty fallback else .text v.text) b text) :
    Denotes stack (.context key fallback) b text
  | plural {stack b} (id : String) (forms : PluralForms) :
    Denotes stack (.plural id forms) b (forms.render (countOf (b.variableOf id)))
  | articleOf {stack b id word style capitalize} (named : id.isEmpty = false) :
    Denotes stack (.article (some id) word style capitalize) b
      (Grammar.chooseArticle
        (if (b.variableOf id).isTruthy then (b.variableOf id).text else "") style capitalize)
  | article {stack b id? word style capitalize phrase}
    (unnamed : id?.filter (!·.isEmpty) = none) (phrased : Denotes stack (.orEmpty word) b phrase) :
    Denotes stack (.article id? word style capitalize) b
      (Grammar.chooseArticle phrase style capitalize)
  | countSwitch {stack b id cases otherwise text}
    (chosen : Denotes stack
      (.caseFor (fun label => label.fits (countOf (b.variableOf id))) cases otherwise) b text) :
    Denotes stack (.countSwitch id cases otherwise) b text
  | switch {stack b id cases otherwise text}
    (chosen : Denotes stack
      (.caseFor (fun label => label.toValue.strictEquals (b.variableOf id)) cases otherwise)
      b text) :
    Denotes stack (.switch id cases otherwise) b text
  | pickOneEmpty {stack b weights} : Denotes stack (.pickOne [] weights) b ""
  | pickOne {stack b candidates weights position picked text}
    (may : MayPick candidates.length weights position)
    (place : candidates[position]? = some picked) (content : Denotes stack picked b text) :
    Denotes stack (.pickOne candidates weights) b text
  | pickManyEmpty {stack b count set allowDuplicates} :
    Denotes stack (.pickMany [] count set allowDuplicates) b ""
  | pickMany {stack b candidates count set allowDuplicates positions picked texts text}
    (filled : candidates ≠ []) (may : MayPickMany candidates.length count allowDuplicates positions)
    (places : Random.ItemsAt candidates positions picked)
    (all : DenotesAll stack (picked.map fun part => (part, b)) texts)
    (joined : (world.joinNamed set texts).Gives text) :
    Denotes stack (.pickMany candidates count set allowDuplicates) b text
  | randomValueEmpty {stack b pool poolVariable dataType format shownAs}
    (values : (drawPool world b pool poolVariable dataType format).Gives ([], shownAs)) :
    Denotes stack (.randomValue pool poolVariable dataType format) b ""
  | randomValue {stack b pool poolVariable dataType format values shownAs value}
    (pooled : (drawPool world b pool poolVariable dataType format).Gives (values, shownAs))
    (member : value ∈ values) :
    Denotes stack (.randomValue pool poolVariable dataType format) b
      (Format.applyIfAny shownAs value)
  | weightedPickEmpty {stack b} : Denotes stack (.weightedPick []) b ""
  | weightedPick {stack b options position picked text}
    (may : MayPickWeighted (options.map Prod.fst) position)
    (place : options[position]? = some picked) (content : Denotes stack picked.2 b text) :
    Denotes stack (.weightedPick options) b text
  | shuffleEmpty {stack b id count set template} (empty : b.itemsOf id = []) :
    Denotes stack (.shuffle id count set template) b ""
  | shuffle {stack b id count set template positions shown texts text}
    (filled : b.itemsOf id ≠ []) (may : MayShow (b.itemsOf id).length count positions)
    (places : Random.ItemsAt (b.itemsOf id) positions shown)
    (all : DenotesAll stack (Content.ofItems template shown b) texts)
    (joined : (world.joinNamed set texts).Gives text) :
    Denotes stack (.shuffle id count set template) b text
  | unknown {stack b} (tag : Option String) (fields : List (String × Value)) :
    Denotes stack (.unknown tag fields) b ""

/-- The texts of trees in order, each with its bindings. -/
inductive DenotesAll : List String → List (Content × Bindings) → List String → Prop where
  | nil {stack} : DenotesAll stack [] []
  | cons {stack content b text parts texts} (first : Denotes stack content b text)
    (rest : DenotesAll stack parts texts) :
    DenotesAll stack ((content, b) :: parts) (text :: texts)

end

end Texts

end PromptTree
