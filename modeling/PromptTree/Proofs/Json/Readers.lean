import PromptTree.Proofs.Answers
import PromptTree.Proofs.Json.Numbers

/-!
# The readers of JSON values

The readers of values, items and members call each other, and are given fuel.  Each takes one step
and then calls those of less fuel; the equations of the steps are stated once, and what is said
about all readings is shown for a step and then by induction on the fuel.

A reader leaves less than it was given (`consumes`), so the length of a text bounds the recursion,
and more fuel changes no answer (`stable`).

## Main Definitions

* `Json.readName` — the name of a member with its colon.
* `Json.valueOf` — the reading of a value with as much fuel as it takes.
-/

namespace PromptTree.Json

open PromptTree.Text

/-! ## White space, strings and names -/

theorem length_skipSpace_le (cs : List Char) : (skipSpace cs).length ≤ cs.length :=
  (List.dropWhile_sublist _).length_le

/-- A sign after white space costs a character. -/
theorem length_lt_of_skipSpace {cs rest : List Char} {c : Char} (h : skipSpace cs = c :: rest) :
    rest.length < cs.length := by
  have hle := length_skipSpace_le cs
  rw [h, List.length_cons] at hle
  omega

/-- So does one with white space on both sides. -/
theorem length_skipSpace_lt {cs rest : List Char} {c : Char} (h : skipSpace cs = c :: rest) :
    (skipSpace rest).length < cs.length :=
  Nat.lt_of_le_of_lt (length_skipSpace_le rest) (length_lt_of_skipSpace h)

theorem readString_consumes {opening fuel : Nat} {done : List Char} {high : Option Nat}
    {cs rest : List Char} {s : String} (h : readString opening fuel done high cs = .ok (s, rest)) :
    rest.length < cs.length := by
  -- a step that goes on has read a character at least, and the others end or stop
  fun_induction readString opening fuel done high cs <;> simp_all [stopAt] <;> grind

/-- Reads the name of a member and the colon after it. -/
def readName (cs : List Char) : Reading String :=
  match cs with
  | '"' :: text =>
    match readString cs.length (text.length + 1) [] none text with
    | .error stop => .error stop
    | .ok (name, rest) =>
      match skipSpace rest with
      | ':' :: rest => .ok (name, skipSpace rest)
      | rest => stopAt .colon rest
  | _ => stopAt .name cs

theorem readName_consumes {cs rest : List Char} {name : String}
    (h : readName cs = .ok (name, rest)) : rest.length < cs.length := by
  unfold readName at h
  split at h
  · rename_i text
    split at h
    · cases h
    · rename_i s after hs
      split at h
      · rename_i left hcolon
        cases h
        have hafter := readString_consumes hs
        have hleft := length_skipSpace_lt hcolon
        rw [List.length_cons]
        omega
      · cases h
  · cases h

/-! ## One step of the readers -/

section Steps

variable (fuel room : Nat)

/-- How a value begins: with a quote, a bracket, a brace, or otherwise. -/
theorem beginning (cs : List Char) :
    (∃ rest, cs = '"' :: rest) ∨ (∃ rest, cs = '[' :: rest) ∨ (∃ rest, cs = '\x7b' :: rest) ∨
      ∀ c ∈ cs.head?, c ≠ '"' ∧ c ≠ '[' ∧ c ≠ '\x7b' := by
  cases cs with
  | nil => exact .inr (.inr (.inr nofun))
  | cons c rest =>
      by_cases hquote : c = '"'
      · exact .inl ⟨rest, by rw [hquote]⟩
      by_cases hbracket : c = '['
      · exact .inr (.inl ⟨rest, by rw [hbracket]⟩)
      by_cases hbrace : c = '\x7b'
      · exact .inr (.inr (.inl ⟨rest, by rw [hbrace]⟩))
      · refine .inr (.inr (.inr ?_))
        rintro _ ⟨⟩
        exact ⟨hquote, hbracket, hbrace⟩

theorem readValue_string (cs : List Char) :
    readValue (fuel + 1) room ('"' :: cs) =
      (readString (cs.length + 1) (cs.length + 1) [] none cs).map fun (s, rest) => (.str s, rest) :=
  rfl

theorem readValue_list (cs : List Char) :
    readValue (fuel + 1) (room + 1) ('[' :: cs) =
      match skipSpace cs with
      | ']' :: rest => .ok (.list [], rest)
      | rest => (readItems fuel room [] rest).map fun (items, rest) => (.list items, rest) :=
  rfl

theorem readValue_object (cs : List Char) :
    readValue (fuel + 1) (room + 1) ('\x7b' :: cs) =
      match skipSpace cs with
      | '\x7d' :: rest => .ok (.object [], rest)
      | rest =>
        (readMembers fuel room [] rest).map fun (members, rest) =>
          (.object (Entries.ofList members), rest) :=
  rfl

theorem readValue_atom {cs : List Char} (h : ∀ c ∈ cs.head?, c ≠ '"' ∧ c ≠ '[' ∧ c ≠ '\x7b') :
    readValue (fuel + 1) room cs = readAtom cs := by
  rw [readValue]
  all_goals
    rintro rest rfl
    obtain ⟨hquote, hbracket, hbrace⟩ := h _ rfl
    contradiction

theorem readItems_succ (done : List Value) (cs : List Char) :
    readItems (fuel + 1) room done cs =
      match readValue fuel room cs with
      | .error stop => .error stop
      | .ok (v, rest) =>
        match skipSpace rest with
        | ',' :: rest => readItems fuel room (v :: done) (skipSpace rest)
        | ']' :: rest => .ok ((v :: done).reverse, rest)
        | rest => stopAt .comma rest :=
  rfl

theorem readMembers_succ (done : List (String × Value)) (cs : List Char) :
    readMembers (fuel + 1) room done cs =
      match readName cs with
      | .error stop => .error stop
      | .ok (name, rest) =>
        match readValue fuel room rest with
        | .error stop => .error stop
        | .ok (v, rest) =>
          match skipSpace rest with
          | ',' :: rest => readMembers fuel room ((name, v) :: done) (skipSpace rest)
          | '\x7d' :: rest => .ok (((name, v) :: done).reverse, rest)
          | rest => stopAt .comma rest := by
  by_cases hquote : ∃ text, cs = '"' :: text
  · obtain ⟨text, rfl⟩ := hquote
    rw [readName, readMembers]
    cases readString ('"' :: text).length (text.length + 1) [] none text with
    | error stop => rfl
    | ok answer =>
        obtain ⟨name, rest⟩ := answer
        simp only
        cases skipSpace rest with
        | nil => rfl
        | cons c left =>
            by_cases hcolon : c = ':'
            · rw [hcolon]
              rfl
            · simp [stopAt, hcolon]
  · rw [readName, readMembers]
    · rfl
    all_goals exact fun text h => hquote ⟨text, h⟩

end Steps

/-! ## What is left after a value -/

/-- The readers leave less than they are given. -/
structure Consumes (fuel : Nat) : Prop where
  value {room : Nat} {cs rest : List Char} {v : Value}
    (h : readValue fuel room cs = .ok (v, rest)) : rest.length < cs.length
  items {room : Nat} {done items : List Value} {cs rest : List Char}
    (h : readItems fuel room done cs = .ok (items, rest)) : rest.length < cs.length
  members {room : Nat} {done members : List (String × Value)} {cs rest : List Char}
    (h : readMembers fuel room done cs = .ok (members, rest)) : rest.length < cs.length

section Consumes

variable {fuel room : Nat} {cs rest : List Char}

theorem readValue_consumes (hless : Consumes fuel) {v : Value}
    (h : readValue (fuel + 1) room cs = .ok (v, rest)) : rest.length < cs.length := by
  obtain ⟨more, rfl⟩ | ⟨more, rfl⟩ | ⟨more, rfl⟩ | hatom := beginning cs
  · rw [readValue_string] at h
    obtain ⟨⟨s, left⟩, hs, heq⟩ := map_eq_ok_iff.mp h
    cases heq
    exact Nat.lt_succ_of_lt (readString_consumes hs)
  · have hspace := length_skipSpace_le more
    rw [List.length_cons]
    cases room with
    | zero => cases h
    | succ room =>
        rw [readValue_list] at h
        split at h
        · rename_i left hend
          cases h
          exact Nat.lt_succ_of_lt (length_lt_of_skipSpace hend)
        · obtain ⟨⟨items, left⟩, hitems, heq⟩ := map_eq_ok_iff.mp h
          cases heq
          have hleft := hless.items hitems
          omega
  · have hspace := length_skipSpace_le more
    rw [List.length_cons]
    cases room with
    | zero => cases h
    | succ room =>
        rw [readValue_object] at h
        split at h
        · rename_i left hend
          cases h
          exact Nat.lt_succ_of_lt (length_lt_of_skipSpace hend)
        · obtain ⟨⟨members, left⟩, hmembers, heq⟩ := map_eq_ok_iff.mp h
          cases heq
          have hleft := hless.members hmembers
          omega
  · rw [readValue_atom fuel room hatom] at h
    exact readAtom_consumes h

theorem readItems_consumes (hless : Consumes fuel) {done items : List Value}
    (h : readItems (fuel + 1) room done cs = .ok (items, rest)) : rest.length < cs.length := by
  rw [readItems_succ] at h
  split at h
  · cases h
  rename_i v left hv
  have hleft := hless.value hv
  split at h
  · rename_i more hcomma
    have hmore := length_skipSpace_lt hcomma
    have hrest := hless.items h
    omega
  · rename_i more hend
    cases h
    exact Nat.lt_trans (length_lt_of_skipSpace hend) hleft
  · cases h

theorem readMembers_consumes (hless : Consumes fuel) {done members : List (String × Value)}
    (h : readMembers (fuel + 1) room done cs = .ok (members, rest)) : rest.length < cs.length := by
  rw [readMembers_succ] at h
  split at h
  · cases h
  rename_i name after hname
  have hafter := readName_consumes hname
  split at h
  · cases h
  rename_i v left hv
  have hleft := hless.value hv
  split at h
  · rename_i more hcomma
    have hmore := length_skipSpace_lt hcomma
    have hrest := hless.members h
    omega
  · rename_i more hend
    cases h
    exact Nat.lt_trans (length_lt_of_skipSpace hend) (Nat.lt_trans hleft hafter)
  · cases h

end Consumes

theorem consumes (fuel : Nat) : Consumes fuel := by
  induction fuel with
  | zero => exact ⟨nofun, nofun, nofun⟩
  | succ fuel ih =>
      exact ⟨readValue_consumes ih, readItems_consumes ih, readMembers_consumes ih⟩

/-! ## Enough fuel -/

/-- More fuel than the length of the text asks for changes no answer. -/
structure Stable (fuel : Nat) : Prop where
  value {room : Nat} {cs : List Char} (other : Nat) (h : 2 * cs.length + 1 ≤ fuel)
    (h' : 2 * cs.length + 1 ≤ other) : readValue fuel room cs = readValue other room cs
  items {room : Nat} {done : List Value} {cs : List Char} (other : Nat)
    (h : 2 * cs.length + 2 ≤ fuel) (h' : 2 * cs.length + 2 ≤ other) :
    readItems fuel room done cs = readItems other room done cs
  members {room : Nat} {done : List (String × Value)} {cs : List Char} (other : Nat)
    (h : 2 * cs.length + 2 ≤ fuel) (h' : 2 * cs.length + 2 ≤ other) :
    readMembers fuel room done cs = readMembers other room done cs

section Stable

variable {fuel other room : Nat} {cs : List Char}

theorem readValue_stable (hstable : Stable fuel) (h : 2 * cs.length + 1 ≤ fuel + 1)
    (h' : 2 * cs.length + 1 ≤ other + 1) :
    readValue (fuel + 1) room cs = readValue (other + 1) room cs := by
  obtain ⟨more, rfl⟩ | ⟨more, rfl⟩ | ⟨more, rfl⟩ | hatom := beginning cs
  · rfl
  · have hspace := length_skipSpace_le more
    rw [List.length_cons] at h h'
    cases room with
    | zero => rfl
    | succ room =>
        rw [readValue_list, readValue_list]
        split
        · rfl
        · rw [hstable.items other (by omega) (by omega)]
  · have hspace := length_skipSpace_le more
    rw [List.length_cons] at h h'
    cases room with
    | zero => rfl
    | succ room =>
        rw [readValue_object, readValue_object]
        split
        · rfl
        · rw [hstable.members other (by omega) (by omega)]
  · rw [readValue_atom fuel room hatom, readValue_atom other room hatom]

theorem readItems_stable (hstable : Stable fuel) {done : List Value}
    (h : 2 * cs.length + 2 ≤ fuel + 1) (h' : 2 * cs.length + 2 ≤ other + 1) :
    readItems (fuel + 1) room done cs = readItems (other + 1) room done cs := by
  rw [readItems_succ, readItems_succ, hstable.value other (by omega) (by omega)]
  split
  · rfl
  rename_i v rest hv
  have hrest := (consumes other).value hv
  split
  · rename_i more hcomma
    have hmore := length_skipSpace_lt hcomma
    exact hstable.items other (by omega) (by omega)
  · rfl
  · rfl

theorem readMembers_stable (hstable : Stable fuel) {done : List (String × Value)}
    (h : 2 * cs.length + 2 ≤ fuel + 1) (h' : 2 * cs.length + 2 ≤ other + 1) :
    readMembers (fuel + 1) room done cs = readMembers (other + 1) room done cs := by
  rw [readMembers_succ, readMembers_succ]
  split
  · rfl
  rename_i name after hname
  have hafter := readName_consumes hname
  rw [hstable.value other (by omega) (by omega)]
  split
  · rfl
  rename_i v rest hv
  have hrest := (consumes other).value hv
  split
  · rename_i more hcomma
    have hmore := length_skipSpace_lt hcomma
    exact hstable.members other (by omega) (by omega)
  · rfl
  · rfl

end Stable

theorem stable (fuel : Nat) : Stable fuel := by
  induction fuel with
  | zero => exact ⟨nofun, nofun, nofun⟩
  | succ fuel ih =>
      refine ⟨fun other h h' => ?_, fun other h h' => ?_, fun other h h' => ?_⟩
      -- the other fuel is enough as well, so that it allows a step
      all_goals obtain ⟨other, rfl⟩ : ∃ k, other = k + 1 := ⟨other - 1, by omega⟩
      · exact readValue_stable ih h h'
      · exact readItems_stable ih h h'
      · exact readMembers_stable ih h h'

/-- The reading of a value with room for so many lists and objects inside each other, and with as
much fuel as it takes. -/
def valueOf (room : Nat) (cs : List Char) : Reading Value :=
  readValue (2 * cs.length + 1) room cs

theorem readValue_eq_valueOf {fuel room : Nat} {cs : List Char} (h : 2 * cs.length + 1 ≤ fuel) :
    readValue fuel room cs = valueOf room cs :=
  (stable fuel).value _ h (Nat.le_refl _)

theorem valueOf_consumes {room : Nat} {cs rest : List Char} {v : Value}
    (h : valueOf room cs = .ok (v, rest)) : rest.length < cs.length :=
  (consumes _).value h

end PromptTree.Json
