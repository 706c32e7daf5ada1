import Mathlib.Data.List.Nodup
import PromptTree.Condition.Operator
import PromptTree.Content.Basic
import PromptTree.Proofs.Numeral.Sides
import PromptTree.Proofs.Value.Places

/-!
# Values that agree

Two JSON values are equal by value if at every place both have nothing, or have values that
agree by themselves: the same text, two lists, two objects, or two numbers of the same size,
where true and false count as 1 and 0 (`equal_iff_agree`).  Strict equality is that, and that
both are booleans or neither is (`strictEquals_eq`).

So **strict equality takes no boolean for a number at the top, but does inside lists and
objects** (`strictEquals_agreement`): there a boolean may stand against the number that it
counts as, and nothing else may differ in kind.  Where one of the two has nothing inside, as
the value of a case has not, this cannot happen.

## Main Definitions

* `Value.IsJson` — values without tuples whose objects have no name twice.
* `Value.Agrees`, `Value.AgreeAt` — agreement of two values by themselves, and at a place.
* `Value.isFlat` — values with nothing inside.

## Design Notes

Numbers are compared by their size wherever they stand, so NaN agrees with nothing, not with itself
either.  JSON proper has no NaN, but `Value.IsJson` admits it, as the reader of texts does.  A
comparison of lists or objects that takes a shared item for equal without looking at it differs
here, and only here: it finds one and the same NaN inside both equal.  So what is said of values
with NaN inside is said of two that share nothing.
-/

namespace PromptTree

open Schema

/-! ## Numbers -/

namespace Numeral

open Float.Model

/-- Two numbers compare the other way round. -/
theorem compare_swap (u v : UnpackedFloat) : v.compare u = (u.compare v).map Ordering.swap := by
  have hsize : ∀ (m n : Nat) (e f : Int),
      (compare f e).then (compare n m) = ((compare e f).then (compare m n)).swap := by
    intro m n e f
    rw [Ordering.swap_then, ← Std.OrientedCmp.eq_swap, ← Std.OrientedCmp.eq_swap]
  rcases u with (_ | _) | _ | _ | ⟨_ | _, m, e, _⟩ <;>
    rcases v with (_ | _) | _ | _ | ⟨_ | _, n, f, _⟩
  case finite.positive.finite.positive => exact congrArg some (hsize m n e f)
  case finite.negative.finite.negative =>
    exact congrArg some (congrArg Ordering.swap (hsize m n e f))
  all_goals rfl

end Numeral

namespace Number

theorem compare?_float (x y : Float) :
    compare? (.float x) (.float y) = x.toModel.unpack.compare y.toModel.unpack := by
  have hgreater : y < x ↔ x.toModel.unpack.compare y.toModel.unpack = some .gt := by
    rw [Numeral.lt_iff, Numeral.compare_swap]
    generalize x.toModel.unpack.compare y.toModel.unpack = order
    rcases order with _ | _ | _ | _ <;> decide
  have hequal : (x == y) = true ↔ x.toModel.unpack.compare y.toModel.unpack = some .eq := by
    change (x.toModel.unpack.compare y.toModel.unpack == some .eq) = true ↔ _
    exact beq_iff_eq
  simp only [compare?, Numeral.lt_iff, hgreater, hequal]
  generalize x.toModel.unpack.compare y.toModel.unpack = order
  rcases order with _ | _ | _ | _ <;> rfl

theorem compare?_swap (a b : Number) : compare? b a = (compare? a b).map Ordering.swap := by
  match a, b with
  | .int m, .int n => exact congrArg some Std.OrientedCmp.eq_swap
  | .float x, .int n => rfl
  | .int n, .float x => simp [compare?, Function.comp_def]
  | .float x, .float y => rw [compare?_float, compare?_float, Numeral.compare_swap]

theorem equals_comm (a b : Number) : a.equals b = b.equals a := by
  unfold equals
  rw [compare?_swap a b]
  rcases compare? a b with _ | _ | _ | _ <;> rfl

end Number

/-! ## Parts that correspond -/

section Corresponding

variable {α : Type} {r s : α → α → Prop} {a : α} {u v : Option α}

theorem isSome_of_rel (h : Option.Rel r u v) : u.isSome = v.isSome := by
  cases h with
  | none => rfl
  | some _ => rfl

theorem rel_some_iff : Option.Rel r (some a) v ↔ ∃ b, v = some b ∧ r a b := by
  constructor
  · rintro (h | _)
    exact ⟨_, rfl, h⟩
  · rintro ⟨b, rfl, h⟩
    exact .some h

/-- Parts that correspond in one way do in another, if all of them that there are do. -/
theorem rel_of_rel (h : Option.Rel r u v) (hs : ∀ a b, u = some a → v = some b → r a b → s a b) :
    Option.Rel s u v := by
  cases h with
  | none => exact .none
  | some hr => exact .some (hs _ _ rfl rfl hr)

theorem rel_bind {f g : α → Option α} (h : Option.Rel r u v)
    (hs : ∀ a b, u = some a → v = some b → r a b → Option.Rel s (f a) (g b)) :
    Option.Rel s (u.bind f) (v.bind g) := by
  cases h with
  | none => exact .none
  | some hr => exact hs _ _ rfl rfl hr

end Corresponding

namespace Entries

variable {entries others : Entries} {name : String} {v : Value}

/-- Where no name occurs twice, every entry is found under its name. -/
theorem lookup_eq_some_iff_mem (h : (entries.map Prod.fst).Nodup) :
    entries.lookup name = some v ↔ (name, v) ∈ entries := by
  induction entries with
  | nil => simp
  | cons entry rest ih =>
      obtain ⟨first, w⟩ := entry
      obtain ⟨hfirst, hrest⟩ := List.nodup_cons.mp h
      by_cases hname : name = first
      · subst hname
        have habsent : (name, v) ∉ rest := fun hmem =>
          hfirst (List.mem_map.mpr ⟨_, hmem, rfl⟩)
        simp [habsent, eq_comm]
      · rw [List.lookup_cons, beq_false_of_ne hname, ih hrest]
        simp [hname]

theorem isSome_lookup_iff : (entries.lookup name).isSome = true ↔ name ∈ entries.map Prod.fst := by
  rw [List.lookup_isSome_iff]
  simp

end Entries

namespace Value

/-- **The values of JSON**: without tuples, and with no name twice in an object.  NaN is admitted,
though JSON proper has none. -/
inductive IsJson : Value → Prop where
  | null : IsJson .null
  | bool (b : Bool) : IsJson (.bool b)
  | int (n : Int) : IsJson (.int n)
  | float (x : Float) : IsJson (.float x)
  | str (s : String) : IsJson (.str s)
  | list {items : List Value} (inside : ∀ v ∈ items, IsJson v) : IsJson (.list items)
  | object {entries : Entries} (names : (entries.map Prod.fst).Nodup)
      (inside : ∀ entry ∈ entries, IsJson entry.2) : IsJson (.object entries)

/-- **Two values agree by themselves**, whatever is inside them: both are `null`, the same text,
lists, objects, or numbers of the same size, where true and false count as 1 and 0. -/
inductive Agrees : Value → Value → Prop where
  | null : Agrees .null .null
  | str (s : String) : Agrees (.str s) (.str s)
  | list (items others : List Value) : Agrees (.list items) (.list others)
  | object (entries others : Entries) : Agrees (.object entries) (.object others)
  | numbers {a b : Value} {m n : Number} (left : a.numeric? = some m)
      (right : b.numeric? = some n) (equal : m.equals n = true) : Agrees a b

/-- Two values agree at a place: both have nothing there, or have values that agree. -/
def AgreeAt (a b : Value) (place : List Step) : Prop :=
  Option.Rel Agrees (a.at? place) (b.at? place)

theorem Agrees.symm {a b : Value} (h : Agrees a b) : Agrees b a := by
  cases h with
  | null => exact .null
  | str s => exact .str s
  | list items others => exact .list others items
  | object entries others => exact .object others entries
  | numbers hleft hright hequal => exact .numbers hright hleft (Number.equals_comm _ _ ▸ hequal)

theorem AgreeAt.symm {a b : Value} {place : List Step} (h : AgreeAt a b place) :
    AgreeAt b a place := by
  unfold AgreeAt at *
  generalize a.at? place = u at *
  generalize b.at? place = v at *
  cases h with
  | none => exact .none
  | some hagrees => exact .some hagrees.symm

/-- Two values are equal by value. -/
abbrev Equal (a b : Value) : Prop := looseEquals a b = true

/-! ## One step inside -/

theorem at?_cons (v : Value) (step : Step) (rest : List Step) :
    v.at? (step :: rest) = (v.at? [step]).bind (at? · rest) := by
  cases step with
  | field name => cases v <;> simp [at?]
  | item index => cases v <;> simp [at?]

theorem looseEqualsAll_iff {items others : List Value} :
    looseEqualsAll items others = true ↔
      ∀ index : Nat, Option.Rel Equal items[index]? others[index]? := by
  induction items generalizing others with
  | nil =>
      cases others with
      | nil => exact iff_of_true rfl fun _ => .none
      | cons w rest =>
          refine iff_of_false Bool.false_ne_true fun h => ?_
          cases h 0
  | cons v rest ih =>
      cases others with
      | nil =>
          refine iff_of_false Bool.false_ne_true fun h => ?_
          cases h 0
      | cons w more =>
          rw [looseEqualsAll, Bool.and_eq_true, ih]
          constructor
          · rintro ⟨hfirst, hrest⟩ (_ | index)
            · exact .some hfirst
            · exact hrest index
          · intro h
            refine ⟨?_, fun index => h (index + 1)⟩
            cases h 0 with
            | some hfirst => exact hfirst

theorem looseEqualsEntries_iff {entries others : Entries} :
    looseEqualsEntries entries others = true ↔
      ∀ entry ∈ entries, ∃ w, others.lookup entry.1 = some w ∧ Equal entry.2 w := by
  induction entries with
  | nil => simp [looseEqualsEntries]
  | cons entry rest ih =>
      obtain ⟨name, v⟩ := entry
      rw [looseEqualsEntries, Bool.and_eq_true, ih, List.forall_mem_cons]
      refine and_congr_left fun _ => ?_
      cases others.lookup name with
      | none => simp
      | some w => simp

/-- Objects are equal if they have equal values under all names. -/
theorem equal_object_iff_lookup {entries others : Entries}
    (hentries : (entries.map Prod.fst).Nodup) (hothers : (others.map Prod.fst).Nodup) :
    Equal (.object entries) (.object others) ↔
      ∀ name, Option.Rel Equal (entries.lookup name) (others.lookup name) := by
  rw [Equal, looseEquals, Bool.and_eq_true, looseEqualsEntries_iff, beq_iff_eq]
  constructor
  · rintro ⟨hlength, hvalues⟩ name
    cases hname : entries.lookup name with
    | some v =>
        obtain ⟨w, hw, hequal⟩ := hvalues _ ((Entries.lookup_eq_some_iff_mem hentries).mp hname)
        rw [hw]
        exact .some hequal
    | none =>
        -- All names of the first object are in the second, which has no more of them.
        have hsubset : entries.map Prod.fst ⊆ others.map Prod.fst := by
          intro name hmem
          obtain ⟨entry, hentry, rfl⟩ := List.mem_map.mp hmem
          obtain ⟨w, hw, -⟩ := hvalues entry hentry
          exact Entries.isSome_lookup_iff.mp (Option.isSome_of_eq_some hw)
        have hperm : (entries.map Prod.fst).Perm (others.map Prod.fst) := by
          refine (hentries.subperm hsubset).perm_of_length_le ?_
          rw [List.length_map, List.length_map, hlength]
        cases hother : others.lookup name with
        | none => exact .none
        | some w =>
            have hmem := Entries.isSome_lookup_iff.mp (Option.isSome_of_eq_some hother)
            have hsome := Entries.isSome_lookup_iff.mpr (hperm.mem_iff.mpr hmem)
            rw [hname] at hsome
            cases hsome
  · intro h
    have hnames : ∀ name, name ∈ entries.map Prod.fst ↔ name ∈ others.map Prod.fst := by
      intro name
      rw [← Entries.isSome_lookup_iff, ← Entries.isSome_lookup_iff, isSome_of_rel (h name)]
    have hperm := (List.perm_ext_iff_of_nodup hentries hothers).mpr hnames
    refine ⟨by simpa using hperm.length_eq, ?_⟩
    rintro ⟨name, v⟩ hmem
    have hname := h name
    rw [(Entries.lookup_eq_some_iff_mem hentries).mpr hmem] at hname
    exact rel_some_iff.mp hname

theorem equalsNumber_iff {m : Number} {v : Value} :
    equalsNumber m v = true ↔ ∃ n, v.numeric? = some n ∧ m.equals n = true := by
  unfold equalsNumber
  cases v.numeric? with
  | none => simp
  | some n => simp

theorem looseEquals_of_numeric {a : Value} {m : Number} (h : a.numeric? = some m) (b : Value) :
    looseEquals a b = equalsNumber m b := by
  cases a with
  | bool x | int n | float x =>
      cases h
      rfl
  | _ => cases h

/-- A value with nothing inside. -/
def isFlat : Value → Bool
  | .list _ => false
  | .tuple _ => false
  | .object _ => false
  | _ => true

theorem at?_of_isFlat {v : Value} (h : v.isFlat = true) (step : Step) (rest : List Step) :
    v.at? (step :: rest) = none := by
  cases v with
  | list | tuple | object => cases h
  | _ => cases step with | _ => rfl

theorem rel_of_isFlat {r : Value → Value → Prop} {a b : Value} (ha : a.isFlat = true)
    (hb : b.isFlat = true) (step : Step) : Option.Rel r (a.at? [step]) (b.at? [step]) := by
  rw [at?_of_isFlat ha, at?_of_isFlat hb]
  exact .none

theorem isFlat_of_numeric {v : Value} {n : Number} (h : v.numeric? = some n) :
    v.isFlat = true := by
  cases v with
  | bool | int | float => rfl
  | _ => cases h

theorem at?_single_field (entries : Entries) (name : String) :
    (Value.object entries).at? [.field name] = entries.lookup name := by
  simp [at?]

theorem at?_single_item (items : List Value) (index : Nat) :
    (Value.list items).at? [.item index] = items[index]? := by
  simp [at?]

/-- JSON values that are equal agree by themselves. -/
theorem agrees_of_equal {a b : Value} (ha : a.IsJson) (h : Equal a b) : Agrees a b := by
  cases hnumeric : a.numeric? with
  | some m =>
      rw [Equal, looseEquals_of_numeric hnumeric] at h
      obtain ⟨n, hn, hequal⟩ := equalsNumber_iff.mp h
      exact .numbers hnumeric hn hequal
  | none =>
      cases ha with
      | bool | int | float => cases hnumeric
      | null =>
          cases b with
          | null => exact .null
          | _ => cases h
      | str s =>
          cases b with
          | str t =>
              obtain rfl : s = t := beq_iff_eq.mp h
              exact .str s
          | _ => cases h
      | @list items _ =>
          cases b with
          | list others => exact .list items others
          | _ => cases h
      | @object entries _ _ =>
          cases b with
          | object others => exact .object entries others
          | _ => cases h

theorem equal_list_iff_step {items others : List Value} :
    Equal (.list items) (.list others) ↔
      ∀ step, Option.Rel Equal ((Value.list items).at? [step])
        ((Value.list others).at? [step]) := by
  refine looseEqualsAll_iff.trans ⟨?_, ?_⟩
  · rintro h (name | index)
    · exact .none
    · rw [at?_single_item, at?_single_item]
      exact h index
  · intro h index
    rw [← at?_single_item, ← at?_single_item]
    exact h (.item index)

theorem equal_object_iff_step {entries others : Entries}
    (hentries : (entries.map Prod.fst).Nodup) (hothers : (others.map Prod.fst).Nodup) :
    Equal (.object entries) (.object others) ↔
      ∀ step, Option.Rel Equal ((Value.object entries).at? [step])
        ((Value.object others).at? [step]) := by
  refine (equal_object_iff_lookup hentries hothers).trans ⟨?_, ?_⟩
  · rintro h (name | index)
    · rw [at?_single_field, at?_single_field]
      exact h name
    · exact .none
  · intro h name
    rw [← at?_single_field, ← at?_single_field]
    exact h (.field name)

/-- **JSON values are equal if they agree by themselves and have equal values inside.** -/
theorem equal_iff_step {a b : Value} (ha : a.IsJson) (hb : b.IsJson) :
    Equal a b ↔ Agrees a b ∧ ∀ step, Option.Rel Equal (a.at? [step]) (b.at? [step]) := by
  constructor
  · intro h
    have hagrees := agrees_of_equal ha h
    refine ⟨hagrees, ?_⟩
    cases hagrees with
    | null | str => exact rel_of_isFlat rfl rfl
    | numbers hleft hright _ =>
        exact rel_of_isFlat (isFlat_of_numeric hleft) (isFlat_of_numeric hright)
    | list items others => exact equal_list_iff_step.mp h
    | object entries others =>
        cases ha with
        | object hentries _ =>
            cases hb with
            | object hothers _ => exact (equal_object_iff_step hentries hothers).mp h
  · rintro ⟨hagrees, hinside⟩
    cases hagrees with
    | null => rfl
    | str s => exact beq_self_eq_true s
    | numbers hleft hright hequal =>
        rw [Equal, looseEquals_of_numeric hleft]
        exact equalsNumber_iff.mpr ⟨_, hright, hequal⟩
    | list items others => exact equal_list_iff_step.mpr hinside
    | object entries others =>
        cases ha with
        | object hentries _ =>
            cases hb with
            | object hothers _ => exact (equal_object_iff_step hentries hothers).mpr hinside

/-! ## All places -/

section Places

variable {a b u : Value} {step : Step}

theorem mem_of_at?_list {items : List Value} (h : (Value.list items).at? [step] = some u) :
    u ∈ items := by
  cases step with
  | field name => cases h
  | item index =>
      rw [at?_single_item] at h
      exact List.mem_of_getElem? h

theorem exists_mem_of_at?_object {entries : Entries} (hnames : (entries.map Prod.fst).Nodup)
    (h : (Value.object entries).at? [step] = some u) : ∃ name, (name, u) ∈ entries := by
  cases step with
  | item index => cases h
  | field name =>
      rw [at?_single_field] at h
      exact ⟨name, (Entries.lookup_eq_some_iff_mem hnames).mp h⟩

/-- Induction on JSON values: what is inside them comes first. -/
theorem IsJson.induction {motive : Value → Prop} (h : a.IsJson)
    (build : ∀ v : Value, v.IsJson →
      (∀ step u, v.at? [step] = some u → u.IsJson ∧ motive u) → motive v) : motive a := by
  have hflat : ∀ v : Value, v.IsJson → v.isFlat = true → motive v := by
    intro v hv hflat
    refine build v hv fun step u hu => ?_
    rw [at?_of_isFlat hflat] at hu
    cases hu
  induction h with
  | null => exact hflat _ .null rfl
  | bool b => exact hflat _ (.bool b) rfl
  | int n => exact hflat _ (.int n) rfl
  | float x => exact hflat _ (.float x) rfl
  | str s => exact hflat _ (.str s) rfl
  | list inside ih =>
      refine build _ (.list inside) fun step u hu => ?_
      have hmem := mem_of_at?_list hu
      exact ⟨inside u hmem, ih u hmem⟩
  | object names inside ih =>
      refine build _ (.object names inside) fun step u hu => ?_
      obtain ⟨name, hmem⟩ := exists_mem_of_at?_object names hu
      exact ⟨inside _ hmem, ih _ hmem⟩

/-- What is inside a JSON value is one. -/
theorem IsJson.inside (h : a.IsJson) : ∀ step u, a.at? [step] = some u → u.IsJson :=
  h.induction fun _ _ hinside step u hu => (hinside step u hu).1

/-- Equal values agree at all places, by induction on the place. -/
theorem agreeAt_of_equal (ha : a.IsJson) (hb : b.IsJson) (h : Equal a b) (place : List Step) :
    AgreeAt a b place := by
  induction place generalizing a b with
  | nil =>
      rw [AgreeAt, at?_nil, at?_nil]
      exact .some (agrees_of_equal ha h)
  | cons step rest ih =>
      rw [AgreeAt, at?_cons a, at?_cons b]
      refine rel_bind (((equal_iff_step ha hb).mp h).2 step) fun u v hu hv hequal => ?_
      exact ih (ha.inside step u hu) (hb.inside step v hv) hequal

/-- Values that agree at all places have values inside that do. -/
theorem rel_of_agree (h : ∀ place, AgreeAt a b place) (step : Step) :
    Option.Rel (fun u v => ∀ place, AgreeAt u v place) (a.at? [step]) (b.at? [step]) := by
  refine rel_of_rel (h [step]) fun u v hu hv _ rest => ?_
  have hrest := h (step :: rest)
  rwa [AgreeAt, at?_cons a, at?_cons b, hu, hv] at hrest

/-- Values that agree at all places are equal, by induction on the first. -/
theorem equal_of_agree (ha : a.IsJson) (hb : b.IsJson) (h : ∀ place, AgreeAt a b place) :
    Equal a b := by
  -- what is inside the second value is another one at each step, so it is not fixed
  refine ha.induction (motive := fun a => ∀ b : Value, b.IsJson → (∀ place, AgreeAt a b place) →
    Equal a b) (fun a ha hinside b hb h => ?_) b hb h
  have hroot := h []
  rw [AgreeAt, at?_nil, at?_nil] at hroot
  obtain ⟨_, hb', hagrees⟩ := rel_some_iff.mp hroot
  cases hb'
  refine (equal_iff_step ha hb).mpr ⟨hagrees, fun step => ?_⟩
  refine rel_of_rel (rel_of_agree h step) fun u v hu hv hagree => ?_
  exact (hinside step u hu).2 v (hb.inside step v hv) hagree

/-- **JSON values are equal by value exactly if they agree at all places.** -/
theorem equal_iff_agree (ha : a.IsJson) (hb : b.IsJson) :
    Equal a b ↔ ∀ place, AgreeAt a b place :=
  ⟨agreeAt_of_equal ha hb, equal_of_agree ha hb⟩

end Places

/-! ## Strict equality -/

/-- **Two values are strictly equal if they are equal by value and both booleans or neither.** -/
theorem strictEquals_eq (a b : Value) :
    a.strictEquals b = (a.isBool == b.isBool && looseEquals a b) := by
  cases a with
  | _ => cases b with | _ => rfl

section Strict

variable {a b : Value}

/-- Strictly equal JSON values: both booleans or neither, and in agreement at all places. -/
theorem strictEquals_iff_agree (ha : a.IsJson) (hb : b.IsJson) :
    a.strictEquals b = true ↔ a.isBool = b.isBool ∧ ∀ place, AgreeAt a b place := by
  rw [strictEquals_eq, Bool.and_eq_true, beq_iff_eq, ← equal_iff_agree ha hb]

/-- Where only one of two values that agree is a boolean, it counts as the other. -/
theorem Agrees.numbers_of_isBool (h : Agrees a b) (hbool : a.isBool ≠ b.isBool) :
    ∃ m n, a.numeric? = some m ∧ b.numeric? = some n ∧ m.equals n = true := by
  cases h with
  | numbers hleft hright hequal => exact ⟨_, _, hleft, hright, hequal⟩
  | _ => exact absurd rfl hbool

/-- Where nothing is inside one of two strictly equal values, booleans are where they are in
the other. -/
theorem map_isBool_of_isFlat (ha : a.IsJson) (hb : b.IsJson) (h : a.strictEquals b = true)
    (hflat : a.isFlat = true ∨ b.isFlat = true) (place : List Step) :
    (a.at? place).map isBool = (b.at? place).map isBool := by
  obtain ⟨htop, hagree⟩ := (strictEquals_iff_agree ha hb).mp h
  cases place with
  | nil => rw [at?_nil, at?_nil, Option.map_some, Option.map_some, htop]
  | cons step rest =>
      have hsome := isSome_of_rel (hagree (step :: rest))
      have hnone : a.at? (step :: rest) = none ∧ b.at? (step :: rest) = none := by
        obtain hflat | hflat := hflat
        · rw [at?_of_isFlat hflat] at hsome ⊢
          exact ⟨rfl, Option.isSome_eq_false_iff.mp hsome.symm |> Option.isNone_iff_eq_none.mp⟩
        · rw [at?_of_isFlat hflat] at hsome ⊢
          exact ⟨Option.isSome_eq_false_iff.mp hsome |> Option.isNone_iff_eq_none.mp, rfl⟩
      rw [hnone.1, hnone.2]

end Strict

theorem isJson_toValue (label : CaseValue) :
    label.toValue.IsJson ∧ label.toValue.isFlat = true := by
  cases label with
  | bool b => exact ⟨.bool b, rfl⟩
  | int n => exact ⟨.int n, rfl⟩
  | float x => exact ⟨.float x, rfl⟩
  | str s => exact ⟨.str s, rfl⟩

/-- **Strict equality keeps booleans and numbers apart at the top, and not inside.**  Of two
JSON values:

* They are strictly equal exactly if both are booleans or neither is, and they agree at all
  places; so strict equality is symmetric, and both have something at the same places.
* If one of strictly equal values has a boolean where the other has none, then this is inside
  a list or an object, and the other has the number there that the boolean counts as.
* If one of strictly equal values has nothing inside, as the value of a case has not, then
  booleans are at the same places in both.
* The test of equality is strict equality, and a list contains what one of its items is
  strictly equal to; so both take a boolean for a number inside lists and objects only.

NaN agrees with nothing, so values with NaN inside are not strictly equal; this is meant for two
values that share no NaN. -/
theorem strictEquals_agreement {a b : Value} (ha : a.IsJson) (hb : b.IsJson) :
    (a.strictEquals b = true ↔ a.isBool = b.isBool ∧ ∀ place, AgreeAt a b place) ∧
    (a.strictEquals b = true →
      b.strictEquals a = true ∧
      (∀ place, (a.at? place).isSome = (b.at? place).isSome) ∧
      (∀ place u v, a.at? place = some u → b.at? place = some v → u.isBool ≠ v.isBool →
        place ≠ [] ∧ ∃ m n, u.numeric? = some m ∧ v.numeric? = some n ∧ m.equals n = true) ∧
      (a.isFlat = true ∨ b.isFlat = true →
        ∀ place, (a.at? place).map isBool = (b.at? place).map isBool)) ∧
    (∀ label : CaseValue, label.toValue.strictEquals b = true →
      ∀ place, (label.toValue.at? place).map isBool = (b.at? place).map isBool) ∧
    (holdsOperator "equals" a b = true ↔ a.isBool = b.isBool ∧ ∀ place, AgreeAt a b place) ∧
    (∀ items, a = .list items → (holdsOperator "contains" a b = true ↔
      ∃ item ∈ items, item.isBool = b.isBool ∧ ∀ place, AgreeAt item b place)) := by
  have hiff := strictEquals_iff_agree ha hb
  refine ⟨hiff, fun h => ?_, fun label h => ?_, hiff, ?_⟩
  · obtain ⟨htop, hagree⟩ := hiff.mp h
    refine ⟨?_, fun place => isSome_of_rel (hagree place), ?_, map_isBool_of_isFlat ha hb h⟩
    · exact (strictEquals_iff_agree hb ha).mpr ⟨htop.symm, fun place => (hagree place).symm⟩
    · intro place u v hu hv hbool
      have hplace := hagree place
      rw [AgreeAt, hu, hv] at hplace
      refine ⟨?_, ?_⟩
      · rintro rfl
        rw [at?_nil] at hu hv
        cases hu
        cases hv
        exact hbool htop
      · cases hplace with
        | some hagrees => exact hagrees.numbers_of_isBool hbool
  · obtain ⟨hlabel, hflat⟩ := isJson_toValue label
    exact map_isBool_of_isFlat hlabel hb h (.inl hflat)
  · rintro items rfl
    cases ha with
    | list inside =>
        have hcontains : holdsOperator "contains" (.list items) b =
          items.any fun item => item.strictEquals b := rfl
        rw [hcontains, List.any_eq_true]
        refine exists_congr fun item => and_congr_right fun hitem => ?_
        exact strictEquals_iff_agree (inside item hitem) hb

/-- Two descriptions of a feature that differ in the order of their fields, and in whether a
flag is a boolean: they are strictly equal. -/
theorem strictEquals_agreement_flags :
    let a : Value := .object [("size", .int 2), ("flags", .list [.bool true, .str "x"])]
    let b : Value := .object [("flags", .list [.int 1, .str "x"]), ("size", .int 2)]
    a.IsJson ∧ b.IsJson ∧ a.strictEquals b = true ∧ b.strictEquals a = true ∧
      a.at? [.field "flags", .item 0] = some (.bool true) ∧
      b.at? [.field "flags", .item 0] = some (.int 1) ∧
      ∀ place, (a.at? place).isSome = (b.at? place).isSome := by
  intro a b
  have hitems : ∀ v : Value, v.IsJson → (Value.list [v, .str "x"]).IsJson := fun v hv =>
    .list (List.forall_mem_cons.mpr ⟨hv, List.forall_mem_singleton.mpr (.str "x")⟩)
  have ha : a.IsJson := by
    refine .object (by decide) (List.forall_mem_cons.mpr ⟨.int 2, ?_⟩)
    exact List.forall_mem_singleton.mpr (hitems _ (.bool true))
  have hb : b.IsJson := by
    refine .object (by decide) (List.forall_mem_cons.mpr ⟨hitems _ (.int 1), ?_⟩)
    exact List.forall_mem_singleton.mpr (.int 2)
  have hequal : a.strictEquals b = true := rfl
  obtain ⟨-, hagreement, -⟩ := strictEquals_agreement ha hb
  obtain ⟨hsymm, hshape, -⟩ := hagreement hequal
  exact ⟨ha, hb, hequal, hsymm, rfl, rfl, hshape⟩

/-- Strict equality takes a boolean for a number inside a list, and so do the tests. -/
theorem strictEquals_listedBoolean :
    let flags : Value := .list [.bool true]
    let numbers : Value := .list [.int 1]
    flags.strictEquals numbers = true ∧ holdsOperator "equals" flags numbers = true ∧
      holdsOperator "contains" (.list [flags]) numbers = true ∧
      ¬∀ a b : Value, a.IsJson → b.IsJson → a.strictEquals b = true →
        b.strictEquals a = true ∧ ∀ place, (a.at? place).map isBool = (b.at? place).map isBool := by
  intro flags numbers
  have hequal : flags.strictEquals numbers = true := rfl
  have hflags : flags.IsJson := .list (List.forall_mem_singleton.mpr (.bool true))
  have hnumbers : numbers.IsJson := .list (List.forall_mem_singleton.mpr (.int 1))
  refine ⟨hequal, rfl, rfl, fun hall => ?_⟩
  have hfirst := (hall flags numbers hflags hnumbers hequal).2 [.item 0]
  cases hfirst

end Value

end PromptTree
