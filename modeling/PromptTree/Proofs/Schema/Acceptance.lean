import PromptTree.Schema.Record

/-!
# Which documents are accepted

Whether a reader accepts a value, without what it makes of it.  A reader that is put together
from others accepts what they accept in the right places, and there is one equation for each
way of putting readers together.  With these equations the acceptance of a record comes down
to a conjunction over its fields.

## Main Definitions

* `Checked.isOk` — there is a result.
-/

namespace PromptTree.Schema

namespace Checked

variable {α β : Type} {a : Checked α}

/-- There is a result. -/
def isOk : Checked α → Bool
  | .ok _ => true
  | .faulty _ => false

theorem isOk_iff : a.isOk = true ↔ ∃ x, a = .ok x := by
  cases a with
  | ok x => simp [isOk]
  | faulty faults => simp [isOk]

@[simp] theorem isOk_ok (x : α) : (ok x).isOk = true := rfl

@[simp] theorem isOk_fail (kind : FaultKind) (v : Value) : (fail kind v : Checked α).isOk = false :=
  rfl

@[simp] theorem isOk_map (f : α → β) : (map f a).isOk = a.isOk := by
  cases a with
  | ok x => rfl
  | faulty faults => rfl

@[simp] theorem isOk_fmap (f : α → β) : (f <$> a).isOk = a.isOk :=
  isOk_map f

@[simp] theorem isOk_seq (f : Checked (α → β)) : (f <*> a).isOk = (f.isOk && a.isOk) := by
  change (ap f a).isOk = _
  cases f with
  | ok g =>
      cases a with
      | ok x => rfl
      | faulty faults => rfl
  | faulty faults =>
      cases a with
      | ok x => rfl
      | faulty more => rfl

@[simp] theorem isOk_below (step : Step) : (a.below step).isOk = a.isOk := by
  cases a with
  | ok x => rfl
  | faulty faults => rfl

theorem isOk_sequence (as : List (Checked α)) : (sequence as).isOk = as.all isOk := by
  induction as with
  | nil => rfl
  | cons first rest ih =>
      rw [List.all_cons, ← ih]
      exact isOk_seq (map List.cons first) |>.trans (by rw [isOk_map])

end Checked

open Checked

variable {α : Type} {read : Reader α} {entries : Entries}

/-! ## Values -/

@[simp] theorem isOk_string (v : Value) : (string v).isOk = v.str?.isSome := by
  cases v with
  | _ => rfl

@[simp] theorem isOk_oneOf (choices : List (String × α)) (v : Value) :
    (oneOf choices v).isOk = (v.str?.bind (choices.lookup ·)).isSome := by
  unfold oneOf
  cases v.str?.bind (choices.lookup ·) with
  | some choice => rfl
  | none => rfl

@[simp] theorem isOk_nullable (v : Value) :
    (nullable read v).isOk = (v.isNull || (read v).isOk) := by
  unfold nullable
  cases v.isNull with
  | true => rfl
  | false => exact isOk_map some

@[simp] theorem isOk_list (v : Value) :
    (list read v).isOk = v.items?.any fun items => items.all fun item => (read item).isOk := by
  have hitems : ∀ (items : List Value) (index : Nat),
      (itemsFrom read index items).all Checked.isOk = items.all fun item => (read item).isOk := by
    intro items
    induction items with
    | nil => exact fun _ => rfl
    | cons first rest ih =>
        intro index
        rw [itemsFrom, List.all_cons, List.all_cons, ih, isOk_below]
  unfold list
  cases v.items? with
  | some items => rw [isOk_sequence, hitems]; rfl
  | none => rfl

@[simp] theorem isOk_orElse (second : Reader α) (v : Value) :
    (orElse read second v).isOk = ((read v).isOk || (second v).isOk) := by
  unfold orElse
  cases read v with
  | ok a => rfl
  | faulty faults =>
      cases second v with
      | ok a => rfl
      | faulty more => rfl

@[simp] theorem isOk_asMember (name : String) (v : Value) :
    (asMember name read v).isOk = (read v).isOk :=
  isOk_below _

@[simp] theorem record_object (name : String) (fields : Entries → Checked α) :
    record name fields (.object entries) = fields entries := rfl

/-! ## Fields -/

theorem isOk_withDefaultAs (names : List String) (fallback : α) :
    (withDefaultAs entries names fallback read).isOk =
      ( entry? entries names).all fun entry => (read entry.2).isOk := by
  unfold withDefaultAs
  cases entry? entries names with
  | some entry => exact isOk_below _
  | none => rfl

@[simp] theorem isOk_withDefault (name : String) (fallback : α) :
    (withDefault entries name fallback read).isOk =
      (entries.lookup name).all fun v => (read v).isOk := by
  rw [withDefault, isOk_withDefaultAs, entry?, Entries.get?]
  cases entries.lookup name with
  | some v => rfl
  | none => rfl

@[simp] theorem isOk_optional (name : String) :
    (optional entries name read).isOk =
      (entries.lookup name).all fun v => v.isNull || (read v).isOk := by
  simp only [optional, isOk_withDefault, isOk_nullable]

@[simp] theorem isOk_required (name : String) :
    (required entries name read).isOk = (entries.lookup name).any fun v => (read v).isOk := by
  unfold required requiredAs entry? Entries.get?
  cases entries.lookup name with
  | some v => exact isOk_below _
  | none => rfl

end PromptTree.Schema
