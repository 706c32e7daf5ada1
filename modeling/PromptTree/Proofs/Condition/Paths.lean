import Mathlib.Data.List.TakeWhile
import PromptTree.Value.Path

/-!
# Where paths lead

A path leads from a value to what is at its end, or to nothing: `Value.descend?` follows it
from one value to the next below it, and has nothing as soon as there is none.  This module
proves that following a path does no more than that (`resolve_eq_descend`), and that it
gives `null` where the path does not apply, **provided that its segments are well spelled**:
a segment of digits has to spell a number.

That is needed wherever a list may stand in the way (`follow_nested_list`): objects lead to
any segment of a path, and a list in its place asks the segment for its number.

## Main Definitions

* `Value.SpellsPosition` — segments that spell a number if they are made of digits.
* `Value.child?`, `Value.descend?` — what is below a value, at a segment and along a path.
* `Value.nested` — the objects along some segments, with a value at the end.
-/

namespace PromptTree.Value

/-! ## Segments -/

/-- If the segment is made of digits, then it spells a number: its digits are decimal, and
they are not too many. -/
def SpellsPosition (segment : String) : Prop :=
  segment.toList.all Text.isDigit = true →
    segment.toList.all Text.isDecimal = true ∧ segment.toList.length ≤ Numeral.digitLimit

/-- Digits that are all decimal have a value, and no others. -/
theorem isSome_decimals? {cs : List Char} (h : cs ≠ []) :
    (Numeral.decimals? cs).isSome = cs.all Text.isDecimal := by
  have hfold : ∀ (cs : List Char) (value : Option Nat),
      (cs.foldl (fun value c => do return (← value) * 10 + (← Text.decimalValue? c)) value).isSome =
        (value.isSome && cs.all Text.isDecimal) := by
    intro cs
    induction cs with
    | nil => exact fun value => (Bool.and_true _).symm
    | cons c rest ih =>
        intro value
        rw [List.foldl_cons, ih, List.all_cons]
        cases value with
        | none => rfl
        | some n =>
            cases hc : Text.decimalValue? c with
            | none => simp [Text.isDecimal, hc]
            | some digit => simp [Text.isDecimal, hc]
  have hcs : cs.isEmpty = false := by simpa using h
  rw [Numeral.decimals?, hcs]
  exact hfold cs (some 0)

/-- **A segment is asked for its number in vain** exactly if it is made of digits and spells
none. -/
theorem exists_position_iff (segment : String) :
    (∃ position, position? segment = .ok position) ↔ SpellsPosition segment := by
  unfold position? SpellsPosition
  simp only
  generalize segment.toList = cs
  by_cases hdigits : cs.isEmpty || !cs.all Text.isDigit
  · rw [if_pos hdigits]
    refine ⟨fun _ hall => ?_, fun _ => ⟨none, rfl⟩⟩
    -- Only the empty segment is made of digits here.
    obtain rfl : cs = [] := by simpa [hall] using hdigits
    exact ⟨rfl, Nat.zero_le _⟩
  · rw [if_neg hdigits]
    obtain ⟨hne, hall⟩ : cs ≠ [] ∧ cs.all Text.isDigit = true := by simpa using hdigits
    have hsome := isSome_decimals? hne
    simp only [hall, true_implies]
    constructor
    · rintro ⟨position, hposition⟩
      split at hposition
      · cases hposition
      · rename_i hlimit
        cases hvalue : Numeral.decimals? cs with
        | none =>
            rw [hvalue] at hposition
            cases hposition
        | some n =>
            rw [hvalue] at hsome
            have hdecimal : cs.all Text.isDecimal = true := hsome.symm
            refine ⟨hdecimal, ?_⟩
            rw [← List.takeWhile_eq_self_iff.mpr (List.all_eq_true.mp hdecimal)]
            exact Nat.le_of_not_lt hlimit
    · rintro ⟨hdecimal, hlimit⟩
      have hrun : (cs.takeWhile fun c => (Text.decimalValue? c).isSome).length ≤ cs.length :=
        (List.takeWhile_prefix _).length_le
      rw [hdecimal] at hsome
      obtain ⟨n, hn⟩ := Option.isSome_iff_exists.mp hsome
      rw [if_neg (Nat.not_lt.mpr (Nat.le_trans hrun hlimit)), hn]
      exact ⟨some n, rfl⟩

/-- The number of a segment, if it spells one. -/
def index? (segment : String) : Option Nat :=
  (position? segment).toOption.join

/-! ## Paths -/

/-- What is below a value at a segment: the value under a key, or the item at a position. -/
def child? (segment : String) : Value → Option Value
  | .object entries => Entries.get? entries segment
  | .list items | .tuple items => (index? segment).bind (items[·]?)
  | _ => none

/-- What is below a value along some segments. -/
def descend? : List String → Value → Option Value
  | [], v => some v
  | segment :: rest, v => (child? segment v).bind (descend? rest)

/-- The segments of a path, none without one. -/
def segments : Option String → List String
  | none => []
  | some path => if path.isEmpty then [] else Text.splitAt '.' path

/-- From nothing a path leads to nothing. -/
theorem follow_null (rest : List String) : follow rest .null = .ok .null := by
  cases rest with
  | nil => rfl
  | cons _ _ => rfl

/-- A path is followed segment by segment. -/
theorem resolve_eq_follow (v : Value) (path : Option String) :
    v.resolve path = follow (segments path) v := by
  cases path with
  | none => rfl
  | some path =>
      cases hempty : path.isEmpty with
      | true => simp only [resolve, segments, hempty, Bool.true_or, if_true, follow]
      | false =>
          simp only [resolve, segments, hempty, Bool.false_or, Bool.false_eq_true, if_false]
          cases v with
          | null => exact (follow_null _).symm
          | _ => rfl

/-- What counts as false has nothing below it. -/
theorem child?_of_not_isTruthy {v : Value} (h : v.isTruthy = false) (segment : String) :
    v.child? segment = none := by
  cases v with
  | object entries =>
      obtain rfl : entries = [] := by simpa [isTruthy] using h
      rfl
  | list items | tuple items =>
      obtain rfl : items = [] := by simpa [isTruthy] using h
      simp only [child?, List.getElem?_nil]
      exact Option.bind_fun_none _
  | _ => rfl

theorem step_eq_child {segment : String} (h : SpellsPosition segment) (v : Value) :
    step segment v = .ok ((v.child? segment).getD .null) := by
  obtain ⟨position, hposition⟩ := (exists_position_iff segment).mpr h
  have hindex : index? segment = position := by
    rw [index?, hposition]
    cases position with
    | none => rfl
    | some _ => rfl
  cases v with
  | list items | tuple items =>
      rw [step, hposition, child?, hindex]
      rfl
  | _ => rfl

theorem follow_eq_descend {path : List String} (h : ∀ segment ∈ path, SpellsPosition segment)
    (v : Value) : follow path v = .ok ((v.descend? path).getD .null) := by
  induction path generalizing v with
  | nil => rfl
  | cons segment rest ih =>
      obtain ⟨hfirst, hrest⟩ := List.forall_mem_cons.mp h
      rw [follow, descend?]
      cases htruthy : v.isTruthy with
      | false =>
          rw [child?_of_not_isTruthy htruthy]
          rfl
      | true =>
          rw [if_pos rfl, step_eq_child hfirst]
          cases v.child? segment with
          | none => exact follow_null rest
          | some next => exact ih hrest next

/-- **A well spelled path leads to what is at its end**, and to `null` if it does not
apply. -/
theorem resolve_eq_descend {path : Option String}
    (h : ∀ segment ∈ segments path, SpellsPosition segment) (v : Value) :
    v.resolve path = .ok ((v.descend? (segments path)).getD .null) := by
  rw [resolve_eq_follow]
  exact follow_eq_descend h v

/-! ## Values for a path -/

/-- The objects along some segments, with a value at the end. -/
def nested : List String → Value → Value
  | [], v => v
  | segment :: rest, v => .object [(segment, nested rest v)]

/-- Objects lead to any segments. -/
theorem follow_nested (first rest : List String) (v : Value) :
    follow (first ++ rest) (nested first v) = follow rest v := by
  induction first with
  | nil => rfl
  | cons segment others ih =>
      have hstep : step segment (nested (segment :: others) v) = .ok (nested others v) := by
        simp [step, nested, Entries.getD]
      rw [List.cons_append, follow, hstep]
      exact ih

/-- A path leads to the end of the objects along it. -/
theorem resolve_nested (path : Option String) (v : Value) :
    (nested (segments path) v).resolve path = .ok v := by
  have hend := follow_nested (segments path) [] v
  rw [List.append_nil] at hend
  rw [resolve_eq_follow, hend]
  rfl

/-- **Any path that is not well spelled fails somewhere**: there are objects that lead to a
list where a segment is asked for its number in vain. -/
theorem exists_resolve_error {path : Option String} {segment : String}
    (hmem : segment ∈ segments path) (h : ¬SpellsPosition segment) :
    ∃ v failure, resolve v path = .error failure := by
  obtain ⟨first, rest, hpath⟩ := List.append_of_mem hmem
  rw [← exists_position_iff] at h
  rcases hposition : position? segment with failure | position
  · refine ⟨nested first (.list [.null]), failure, ?_⟩
    rw [resolve_eq_follow, hpath, follow_nested, follow]
    simp [isTruthy, step, hposition, Except.map]
  · exact absurd ⟨position, hposition⟩ h

end PromptTree.Value
