import PromptTree.Failure
import PromptTree.Proofs.Json.Readers

/-!
# JSON texts beyond the limits of reading

A JSON text is refused for a limit of what reads it, and not for a fault of its own, in two cases:
it holds an integer of more digits than are read, or lists and objects are nested so deep that
there is no room for another one; provided that everything before can be read.  The relation
`Json.Meets` says where the reader gets to, and `parseChars_eq_error_iff` that it stops there and
only there.

With as much fuel as a text takes, the refusals of the readers are those of the relation
(`refuses`): one step of every reader, and an induction on the fuel.

## Main Definitions

* `Json.Limit` — the two limits, and how far a text goes beyond one.
* `Json.Meets` — the reading of a construct, with room for so many more, comes to a limit.
* `Json.Exceeds` — the reading of a text does.
-/

namespace PromptTree.Json

open PromptTree.Text

/-! ## Limits -/

/-- A limit of the reader, with what goes beyond it: an integer of so many digits, or a list or an
object for which there is no room. -/
inductive Limit where
  | digits (count : Nat)
  | depth (follower : String)

namespace Limit

/-- How the readers stop at the limit. -/
def stop : Limit → Stop
  | digits count => .tooManyDigits count
  | depth follower => .nestedTooDeeply follower

/-- How a text is refused at the limit. -/
def fault : Limit → Fault
  | digits count => .tooManyDigits count
  | depth follower => .nestedTooDeeply follower

/-- How a run fails at the limit. -/
def failure : Limit → Failure
  | digits count => .tooManyDigits count
  | depth follower => .nestedTooDeeply follower

theorem stop_ne_met (limit : Limit) (cause : Cause) (left : Nat) :
    limit.stop ≠ .met cause left := by
  cases limit with
  | digits _ => exact nofun
  | depth _ => exact nofun

theorem stop_inj {limit other : Limit} : limit.stop = other.stop ↔ limit = other := by
  cases limit with
  | digits count =>
      cases other with
      | digits count' => simp [stop]
      | depth _ => exact iff_of_false nofun nofun
  | depth follower =>
      cases other with
      | digits _ => exact iff_of_false nofun nofun
      | depth follower' => simp [stop]

/-- A stop is placed as a limit exactly if it is one. -/
theorem inText_eq_fault_iff {limit : Limit} {text : List Char} {stop : Stop} :
    stop.inText text = limit.fault ↔ stop = limit.stop := by
  cases limit with
  | digits count => cases stop <;> simp [Stop.inText, fault, Limit.stop, Fault.at]
  | depth follower => cases stop <;> simp [Stop.inText, fault, Limit.stop, Fault.at]

theorem stopAt_ne {α : Type} (limit : Limit) (cause : Cause) (cs : List Char) :
    (stopAt cause cs : Except Stop α) ≠ .error limit.stop :=
  fun h => limit.stop_ne_met cause cs.length (Except.error.inj h).symm

end Limit

variable {limit : Limit}

/-! ## Strings and names -/

theorem readString_ne_limit {opening fuel : Nat} {done : List Char} {high : Option Nat}
    {cs : List Char} : readString opening fuel done high cs ≠ .error limit.stop := by
  cases limit with
  | digits _ => fun_induction readString opening fuel done high cs <;> simp_all [stopAt, Limit.stop]
  | depth _ => fun_induction readString opening fuel done high cs <;> simp_all [stopAt, Limit.stop]

theorem readName_ne_limit {cs : List Char} : readName cs ≠ .error limit.stop := by
  intro h
  unfold readName at h
  split at h
  · split at h
    · rename_i stop hs
      cases h
      exact readString_ne_limit hs
    · split at h
      · cases h
      · exact limit.stopAt_ne _ _ h
  · exact limit.stopAt_ne _ _ h

/-! ## No room -/

theorem readValue_list_zero (fuel : Nat) (cs : List Char) :
    readValue (fuel + 1) 0 ('[' :: cs) = .error (Limit.depth listFollower).stop :=
  rfl

theorem readValue_object_zero (fuel : Nat) (cs : List Char) :
    readValue (fuel + 1) 0 ('\x7b' :: cs) = .error (Limit.depth objectFollower).stop :=
  rfl

/-! ## Limits in a text -/

/-- What a text is read as from a place on. -/
inductive Construct where
  | value
  | items
  | members

/-- **The reading comes to a limit**, everything before it being readable: to an integer of more
digits than are read, or to a list or an object that there is no room for.  The number is that of
the lists and objects for which there is still room. -/
inductive Meets : Limit → Nat → Construct → List Char → Prop where
  | number {n room : Nat} {cs : List Char} (h : LongInteger n cs) :
      Meets (.digits n) room .value cs
  | negative {n room : Nat} {cs : List Char} (h : LongInteger n cs) :
      Meets (.digits n) room .value ('-' :: cs)
  | deepList {cs : List Char} : Meets (.depth listFollower) 0 .value ('[' :: cs)
  | deepObject {cs : List Char} : Meets (.depth objectFollower) 0 .value ('\x7b' :: cs)
  | list {limit : Limit} {room : Nat} {cs : List Char} (hfull : ∀ rest, skipSpace cs ≠ ']' :: rest)
      (h : Meets limit room .items (skipSpace cs)) : Meets limit (room + 1) .value ('[' :: cs)
  | object {limit : Limit} {room : Nat} {cs : List Char}
      (hfull : ∀ rest, skipSpace cs ≠ '\x7d' :: rest)
      (h : Meets limit room .members (skipSpace cs)) :
      Meets limit (room + 1) .value ('\x7b' :: cs)
  | item {limit : Limit} {room : Nat} {cs : List Char} (h : Meets limit room .value cs) :
      Meets limit room .items cs
  | laterItem {limit : Limit} {room : Nat} {cs rest more : List Char} {v : Value}
      (hv : valueOf room cs = .ok (v, rest)) (hcomma : skipSpace rest = ',' :: more)
      (h : Meets limit room .items (skipSpace more)) : Meets limit room .items cs
  | member {limit : Limit} {room : Nat} {cs after : List Char} {name : String}
      (hname : readName cs = .ok (name, after)) (h : Meets limit room .value after) :
      Meets limit room .members cs
  | laterMember {limit : Limit} {room : Nat} {cs after rest more : List Char} {name : String}
      {v : Value} (hname : readName cs = .ok (name, after))
      (hv : valueOf room after = .ok (v, rest)) (hcomma : skipSpace rest = ',' :: more)
      (h : Meets limit room .members (skipSpace more)) : Meets limit room .members cs

/-- A limit of the kind of a number is met where the number stands. -/
def Limit.InNumber (limit : Limit) (cs : List Char) : Prop :=
  ∃ n, limit = .digits n ∧ (LongInteger n cs ∨ ∃ rest, cs = '-' :: rest ∧ LongInteger n rest)

theorem Limit.InNumber.atom {cs : List Char} (h : limit.InNumber cs) :
    ∀ c ∈ cs.head?, c ≠ '"' ∧ c ≠ '[' ∧ c ≠ '\x7b' := by
  obtain ⟨n, -, hlong | ⟨rest, rfl, -⟩⟩ := h
  · obtain ⟨c, rest, rfl, hc⟩ := hlong.exists_cons
    rintro _ ⟨⟩
    refine ⟨?_, ?_, ?_⟩
    all_goals
      rintro rfl
      cases hc
  · rintro _ ⟨⟩
    decide

namespace Meets

variable {room : Nat} {cs : List Char}

theorem of_inNumber (h : limit.InNumber cs) : Meets limit room .value cs := by
  obtain ⟨n, rfl, hlong | ⟨rest, rfl, hlong⟩⟩ := h
  · exact .number hlong
  · exact .negative hlong

/-- How the reading of a value comes to a limit. -/
theorem value_cases (h : Meets limit room .value cs) :
    limit.InNumber cs ∨
    (∃ more, cs = '[' :: more ∧ (room = 0 ∧ limit = .depth listFollower ∨
      ∃ inner, room = inner + 1 ∧ (∀ rest, skipSpace more ≠ ']' :: rest) ∧
        Meets limit inner .items (skipSpace more))) ∨
    ∃ more, cs = '\x7b' :: more ∧ (room = 0 ∧ limit = .depth objectFollower ∨
      ∃ inner, room = inner + 1 ∧ (∀ rest, skipSpace more ≠ '\x7d' :: rest) ∧
        Meets limit inner .members (skipSpace more)) := by
  cases h with
  | number hlong => exact .inl ⟨_, rfl, .inl hlong⟩
  | negative hlong => exact .inl ⟨_, rfl, .inr ⟨_, rfl, hlong⟩⟩
  | deepList => exact .inr (.inl ⟨_, rfl, .inl ⟨rfl, rfl⟩⟩)
  | deepObject => exact .inr (.inr ⟨_, rfl, .inl ⟨rfl, rfl⟩⟩)
  | list hfull h => exact .inr (.inl ⟨_, rfl, .inr ⟨_, rfl, hfull, h⟩⟩)
  | object hfull h => exact .inr (.inr ⟨_, rfl, .inr ⟨_, rfl, hfull, h⟩⟩)

theorem not_string : ¬Meets limit room .value ('"' :: cs) := by
  intro h
  obtain hnumber | ⟨more, heq, -⟩ | ⟨more, heq, -⟩ := h.value_cases
  · exact (hnumber.atom '"' rfl).1 rfl
  · cases heq
  · cases heq

theorem list_zero_iff :
    Meets limit 0 .value ('[' :: cs) ↔ limit = .depth listFollower := by
  constructor
  · intro h
    obtain hnumber | ⟨more, heq, ⟨-, hlimit⟩ | ⟨inner, hroom, -⟩⟩ | ⟨more, heq, -⟩ := h.value_cases
    · exact absurd rfl (hnumber.atom '[' rfl).2.1
    · exact hlimit
    · cases hroom
    · cases heq
  · rintro rfl
    exact .deepList

theorem list_iff :
    Meets limit (room + 1) .value ('[' :: cs) ↔
      (∀ rest, skipSpace cs ≠ ']' :: rest) ∧ Meets limit room .items (skipSpace cs) := by
  constructor
  · intro h
    obtain hnumber | ⟨more, heq, ⟨hroom, -⟩ | ⟨inner, hroom, hinside⟩⟩ | ⟨more, heq, -⟩ :=
      h.value_cases
    · exact absurd rfl (hnumber.atom '[' rfl).2.1
    · cases hroom
    · cases heq
      cases hroom
      exact hinside
    · cases heq
  · rintro ⟨hfull, h⟩
    exact .list hfull h

theorem object_zero_iff :
    Meets limit 0 .value ('\x7b' :: cs) ↔ limit = .depth objectFollower := by
  constructor
  · intro h
    obtain hnumber | ⟨more, heq, -⟩ | ⟨more, heq, ⟨-, hlimit⟩ | ⟨inner, hroom, -⟩⟩ := h.value_cases
    · exact absurd rfl (hnumber.atom '\x7b' rfl).2.2
    · cases heq
    · exact hlimit
    · cases hroom
  · rintro rfl
    exact .deepObject

theorem object_iff :
    Meets limit (room + 1) .value ('\x7b' :: cs) ↔
      (∀ rest, skipSpace cs ≠ '\x7d' :: rest) ∧ Meets limit room .members (skipSpace cs) := by
  constructor
  · intro h
    obtain hnumber | ⟨more, heq, -⟩ | ⟨more, heq, ⟨hroom, -⟩ | ⟨inner, hroom, hinside⟩⟩ :=
      h.value_cases
    · exact absurd rfl (hnumber.atom '\x7b' rfl).2.2
    · cases heq
    · cases hroom
    · cases heq
      cases hroom
      exact hinside
  · rintro ⟨hfull, h⟩
    exact .object hfull h

theorem atom_iff (h : ∀ c ∈ cs.head?, c ≠ '"' ∧ c ≠ '[' ∧ c ≠ '\x7b') :
    Meets limit room .value cs ↔ limit.InNumber cs := by
  constructor
  · intro hmeets
    obtain hnumber | ⟨more, rfl, -⟩ | ⟨more, rfl, -⟩ := hmeets.value_cases
    · exact hnumber
    · exact absurd rfl (h '[' rfl).2.1
    · exact absurd rfl (h '\x7b' rfl).2.2
  · exact of_inNumber

end Meets

/-- A number is refused for a limit only where it goes beyond one. -/
theorem readAtom_eq_limit_iff {cs : List Char} :
    readAtom cs = .error limit.stop ↔ limit.InNumber cs := by
  cases limit with
  | digits n => simp [Limit.stop, Limit.InNumber, readAtom_eq_error_iff]
  | depth follower =>
      refine iff_of_false readAtom_ne_nestedTooDeeply ?_
      rintro ⟨n, hlimit, -⟩
      cases hlimit

/-- With enough fuel the readers refuse what meets a limit, and nothing else, for the limit. -/
structure Refuses (limit : Limit) (fuel : Nat) : Prop where
  value {room : Nat} {cs : List Char} (h : 2 * cs.length + 1 ≤ fuel) :
    readValue fuel room cs = .error limit.stop ↔ Meets limit room .value cs
  items {room : Nat} {done : List Value} {cs : List Char} (h : 2 * cs.length + 2 ≤ fuel) :
    readItems fuel room done cs = .error limit.stop ↔ Meets limit room .items cs
  members {room : Nat} {done : List (String × Value)} {cs : List Char}
    (h : 2 * cs.length + 2 ≤ fuel) :
    readMembers fuel room done cs = .error limit.stop ↔ Meets limit room .members cs

section Refuses

variable {fuel room : Nat} {cs : List Char}

theorem readValue_refuses (hrefuses : Refuses limit fuel) (h : 2 * cs.length + 1 ≤ fuel + 1) :
    readValue (fuel + 1) room cs = .error limit.stop ↔ Meets limit room .value cs := by
  obtain ⟨more, rfl⟩ | ⟨more, rfl⟩ | ⟨more, rfl⟩ | hatom := beginning cs
  · rw [readValue_string, map_eq_error_iff]
    exact iff_of_false readString_ne_limit Meets.not_string
  · have hspace := length_skipSpace_le more
    rw [List.length_cons] at h
    cases room with
    | zero =>
        rw [readValue_list_zero, Meets.list_zero_iff, Except.error.injEq, Limit.stop_inj, eq_comm]
    | succ room =>
        rw [readValue_list, Meets.list_iff]
        split
        · rename_i rest hend
          exact iff_of_false nofun fun h => h.1 rest hend
        · rename_i hfull
          rw [map_eq_error_iff, hrefuses.items (by omega)]
          exact (and_iff_right hfull).symm
  · have hspace := length_skipSpace_le more
    rw [List.length_cons] at h
    cases room with
    | zero =>
        rw [readValue_object_zero, Meets.object_zero_iff, Except.error.injEq, Limit.stop_inj,
          eq_comm]
    | succ room =>
        rw [readValue_object, Meets.object_iff]
        split
        · rename_i rest hend
          exact iff_of_false nofun fun h => h.1 rest hend
        · rename_i hfull
          rw [map_eq_error_iff, hrefuses.members (by omega)]
          exact (and_iff_right hfull).symm
  · rw [readValue_atom fuel room hatom, Meets.atom_iff hatom, readAtom_eq_limit_iff]

theorem readItems_refuses (hrefuses : Refuses limit fuel) {done : List Value}
    (h : 2 * cs.length + 2 ≤ fuel + 1) :
    readItems (fuel + 1) room done cs = .error limit.stop ↔ Meets limit room .items cs := by
  have hfirst : readValue fuel room cs = .error limit.stop ↔ Meets limit room .value cs :=
    hrefuses.value (by omega)
  rw [readItems_succ]
  rw [readValue_eq_valueOf (by omega)] at hfirst ⊢
  constructor
  · intro h
    split at h
    · rename_i stop hv
      cases h
      exact .item (hfirst.mp hv)
    rename_i v rest hv
    have hrest := valueOf_consumes hv
    split at h
    · rename_i more hcomma
      have hmore := length_skipSpace_lt hcomma
      exact .laterItem hv hcomma ((hrefuses.items (by omega)).mp h)
    · cases h
    · exact absurd h (limit.stopAt_ne _ _)
  · intro h
    cases h with
    | item h => rw [hfirst.mpr h]
    | laterItem hv hcomma h =>
        have hrest := valueOf_consumes hv
        have hmore := length_skipSpace_lt hcomma
        simp only [hv, hcomma]
        exact (hrefuses.items (by omega)).mpr h

theorem readMembers_refuses (hrefuses : Refuses limit fuel) {done : List (String × Value)}
    (h : 2 * cs.length + 2 ≤ fuel + 1) :
    readMembers (fuel + 1) room done cs = .error limit.stop ↔ Meets limit room .members cs := by
  rw [readMembers_succ]
  constructor
  · intro h
    split at h
    · rename_i stop hname
      cases h
      exact absurd hname readName_ne_limit
    rename_i name after hname
    have hafter := readName_consumes hname
    have hfirst : readValue fuel room after = .error limit.stop ↔ Meets limit room .value after :=
      hrefuses.value (by omega)
    rw [readValue_eq_valueOf (by omega)] at h hfirst
    split at h
    · rename_i stop hv
      cases h
      exact .member hname (hfirst.mp hv)
    rename_i v rest hv
    have hrest := valueOf_consumes hv
    split at h
    · rename_i more hcomma
      have hmore := length_skipSpace_lt hcomma
      exact .laterMember hname hv hcomma ((hrefuses.members (by omega)).mp h)
    · cases h
    · exact absurd h (limit.stopAt_ne _ _)
  · intro h
    cases h with
    | member hname h =>
        have hafter := readName_consumes hname
        simp only [hname, (hrefuses.value (by omega)).mpr h]
    | laterMember hname hv hcomma h =>
        have hafter := readName_consumes hname
        have hrest := valueOf_consumes hv
        have hmore := length_skipSpace_lt hcomma
        rw [hname]
        simp only
        rw [readValue_eq_valueOf (by omega), hv]
        simp only [hcomma]
        exact (hrefuses.members (by omega)).mpr h

end Refuses

theorem refuses (limit : Limit) (fuel : Nat) : Refuses limit fuel := by
  induction fuel with
  | zero => exact ⟨nofun, nofun, nofun⟩
  | succ fuel ih =>
      exact ⟨readValue_refuses ih, readItems_refuses ih, readMembers_refuses ih⟩

section Texts

variable [limits : NestingLimits]

/-- **The reading of a text comes to a limit.** -/
def Exceeds (limit : Limit) (text : List Char) : Prop :=
  Meets limit limits.brackets .value (skipSpace text)

/-- **A text is refused for a limit exactly if the reading comes to it.** -/
theorem parseChars_eq_error_iff {text : List Char} :
    parseChars text = .error limit.fault ↔ Exceeds limit text := by
  unfold parseChars Exceeds
  split
  · rename_i more
    -- the mark is no white space and begins no value
    have hmark : skipSpace ('\uFEFF' :: more) = '\uFEFF' :: more := rfl
    have hatom : ∀ c ∈ ('\uFEFF' :: more).head?, c ≠ '"' ∧ c ≠ '[' ∧ c ≠ '\x7b' := by
      rintro _ ⟨⟩
      decide
    rw [hmark, Meets.atom_iff hatom]
    refine iff_of_false ?_ ?_
    · cases limit with
      | digits _ => exact nofun
      | depth _ => exact nofun
    · rintro ⟨n, -, hlong | ⟨rest, heq, -⟩⟩
      · obtain ⟨c, rest, heq, hc⟩ := hlong.exists_cons
        cases heq
        cases hc
      · cases heq
  · have hspace := length_skipSpace_le text
    rw [← (refuses limit (2 * text.length + 2)).value (by omega)]
    split
    · rename_i stop hstop
      rw [hstop, Except.error.injEq, Except.error.injEq]
      exact Limit.inText_eq_fault_iff
    · rename_i v rest hv
      rw [hv]
      split
      · exact iff_of_false nofun nofun
      · refine iff_of_false ?_ nofun
        cases limit with
        | digits _ => exact nofun
        | depth _ => exact nofun

end Texts

end PromptTree.Json
