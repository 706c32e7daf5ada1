import PromptTree.Proofs.Content.Slots

/-!
# Nodes in slots

The slots of nodes, and what stands in them: of the document of a node, and of the node that
is read from it.

## Main Definitions

* `NodeSlot.IsOwn` — the slots of the nodes of a kind.
* `Content.child?`, `Content.putChild` — the node in a slot, and another one there.
* `Content.at?`, `Content.withAt` — the node at a position, and another one there.
-/

namespace PromptTree

/-- The slots of the nodes of a kind. -/
def NodeSlot.IsOwn (tag : ContentTag) : NodeSlot → Prop
  | .single .yes | .single .no => tag = .conditional
  | .single .template => tag = .list ∨ tag = .shuffle
  | .single .fallback => tag = .context
  | .single .word => tag = .article
  | .single .otherwise => tag = .countSwitch ∨ tag = .switch
  | .item .parts _ => tag = .composite
  | .item .candidates _ => tag = .pickOne ∨ tag = .pickMany
  | .case .cases _ => tag = .countSwitch ∨ tag = .switch
  | .case .options _ => tag = .weightedPick

namespace Content

/-- The node in a slot. -/
def child? : Content → NodeSlot → Option Content
  | .composite parts, .item .parts index => parts[index]?
  | .conditional _ yes _, .single .yes => some yes
  | .conditional _ _ no, .single .no => no
  | .list _ _ template, .single .template => template
  | .context _ fallback, .single .fallback => fallback
  | .article _ word _ _, .single .word => word
  | .countSwitch _ cases _, .case .cases index => cases[index]?.map Prod.snd
  | .countSwitch _ _ otherwise, .single .otherwise => otherwise
  | .switch _ cases _, .case .cases index => cases[index]?.map Prod.snd
  | .switch _ _ otherwise, .single .otherwise => otherwise
  | .pickOne candidates _, .item .candidates index => candidates[index]?
  | .pickMany candidates _ _ _, .item .candidates index => candidates[index]?
  | .weightedPick options, .case .options index => options[index]?.map Prod.snd
  | .shuffle _ _ _ template, .single .template => template
  | _, _ => none

/-- The node with another one in a slot. -/
def putChild : Content → NodeSlot → Content → Content
  | .composite parts, .item .parts index, new => .composite (parts.set index new)
  | .conditional condition _ no, .single .yes, new => .conditional condition new no
  | .conditional condition yes _, .single .no, new => .conditional condition yes (some new)
  | .list variableId separatorSet _, .single .template, new =>
    .list variableId separatorSet (some new)
  | .context key _, .single .fallback, new => .context key (some new)
  | .article wordVariable _ style capitalize, .single .word, new =>
    .article wordVariable (some new) style capitalize
  | .countSwitch countVariable cases otherwise, .case .cases index, new =>
    .countSwitch countVariable (cases.modify index fun case => (case.1, new)) otherwise
  | .countSwitch countVariable cases _, .single .otherwise, new =>
    .countSwitch countVariable cases (some new)
  | .switch variableId cases otherwise, .case .cases index, new =>
    .switch variableId (cases.modify index fun case => (case.1, new)) otherwise
  | .switch variableId cases _, .single .otherwise, new => .switch variableId cases (some new)
  | .pickOne candidates weights, .item .candidates index, new =>
    .pickOne (candidates.set index new) weights
  | .pickMany candidates count separatorSet allowDuplicates, .item .candidates index, new =>
    .pickMany (candidates.set index new) count separatorSet allowDuplicates
  | .weightedPick options, .case .options index, new =>
    .weightedPick (options.modify index fun option => (option.1, new))
  | .shuffle variableId count separatorSet _, .single .template, new =>
    .shuffle variableId count separatorSet (some new)
  | content, _, _ => content

/-- The node at a position. -/
def at? : Content → List NodeSlot → Option Content
  | content, [] => some content
  | content, slot :: rest => (content.child? slot).bind (at? · rest)

/-- The tree with another node at a position. -/
def withAt : Content → List NodeSlot → Content → Content
  | _, [], new => new
  | content, slot :: rest, new =>
    content.putChild slot
      (match content.child? slot with
        | some child => withAt child rest new
        | none => new)

/-- What stands in a slot of a node is right below it. -/
theorem mem_children_of_child? {content child : Content} {slot : NodeSlot}
    (h : content.child? slot = some child) : child ∈ content.children := by
  have hlabelled : ∀ {α : Type} {cases : List (α × Content)} {index : Nat},
      cases[index]?.map Prod.snd = some child → child ∈ cases.map Prod.snd := by
    intro α cases index hcase
    rw [← List.getElem?_map] at hcase
    exact List.mem_of_getElem? hcase
  unfold child? at h
  split at h
  case h_1 | h_11 | h_12 => exact List.mem_of_getElem? h
  case h_2 => exact List.mem_cons.mpr (.inl (Option.some_inj.mp h).symm)
  case h_3 => exact List.mem_cons_of_mem _ (Option.mem_toList.mpr h)
  case h_4 | h_5 | h_6 | h_14 => exact Option.mem_toList.mpr h
  case h_7 | h_9 => exact List.mem_append_left _ (hlabelled h)
  case h_8 | h_10 => exact List.mem_append_right _ (Option.mem_toList.mpr h)
  case h_13 => exact hlabelled h
  case h_15 => cases h

end Content

end PromptTree
