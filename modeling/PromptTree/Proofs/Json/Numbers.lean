import Mathlib.Data.List.Basic
import PromptTree.Json.Reader

/-!
# Numbers in JSON texts

What the reader of numbers and words takes from a text, and when it refuses an integer for its
length (`Json.readAtom_eq_error_iff`): exactly if the integer has more digits than are read, a
leading zero being an integer by itself and a fraction or an exponent making it no integer.

The reader is taken apart into the whole part, the fraction and the exponent
(`readMagnitude_eq`).
-/

namespace PromptTree.Json

open PromptTree.Numeral PromptTree.Text

/-! ## Digits -/

theorem takeDigits_append (cs : List Char) : (takeDigits cs).1 ++ (takeDigits cs).2 = cs :=
  List.takeWhile_append_dropWhile

/-- The characters do not begin with a digit. -/
def NoDigit (cs : List Char) : Prop :=
  ∀ c ∈ cs.head?, isPlainDigit c = false

theorem takeDigits_eq_iff {cs digits rest : List Char} :
    takeDigits cs = (digits, rest) ↔
      cs = digits ++ rest ∧ (∀ c ∈ digits, isPlainDigit c) ∧ NoDigit rest := by
  constructor
  · intro h
    obtain ⟨rfl, rfl⟩ := Prod.mk.inj h
    refine ⟨(takeDigits_append cs).symm, fun c hc => ?_, fun c hc => ?_⟩
    · exact List.all_eq_true.mp List.all_takeWhile c hc
    · have hstop := List.head?_dropWhile_not isPlainDigit cs
      rw [Option.mem_def.mp hc] at hstop
      simpa using hstop
  · rintro ⟨rfl, hdigits, hrest⟩
    have hstop : takeDigits rest = ([], rest) := by
      cases rest with
      | nil => rfl
      | cons c more => simp [takeDigits, hrest c rfl]
    obtain ⟨htake, hdrop⟩ := Prod.mk.inj hstop
    rw [takeDigits, List.takeWhile_append_of_pos hdigits, List.dropWhile_append_of_pos hdigits,
      htake, hdrop, List.append_nil]

theorem takeDigits_fst_eq_nil_iff {cs : List Char} : (takeDigits cs).1 = [] ↔ NoDigit cs := by
  constructor
  · intro h
    obtain ⟨hcs, -, hrest⟩ := takeDigits_eq_iff.mp (Prod.ext h rfl : takeDigits cs = ([], _))
    rw [List.nil_append] at hcs
    rwa [hcs]
  · intro h
    rw [takeDigits_eq_iff.mpr ⟨(List.nil_append cs).symm, nofun, h⟩]

/-! ## Parts of a number -/

/-- The digits before the point, of which a leading zero is all, and what is left. -/
def wholePart (cs : List Char) : List Char × List Char :=
  let (run, afterRun) := takeDigits cs
  match run with
  | '0' :: more => (['0'], more ++ afterRun)
  | _ => (run, afterRun)

/-- The digits after the point, none if there is no point before digits, and what is left. -/
def fractionPart (rest : List Char) : List Char × List Char :=
  match rest with
  | '.' :: after =>
    let (digits, left) := takeDigits after
    if digits.isEmpty then ([], rest) else (digits, left)
  | _ => ([], rest)

/-- The number of a whole part, a fraction and the exponent that may follow. -/
def ofParts (negative : Bool) (start whole places rest : List Char) : Reading Value :=
  if whole.isEmpty then stopAt .value start
  else
    match readExponent rest with
    | some (exponent, rest) =>
      let x := scientific (digitsValue (whole ++ places)) (exponent - Int.ofNat places.length)
      .ok (.float (if negative then -x else x), rest)
    | none =>
      if places.isEmpty then
        if digitLimit < whole.length then .error (.tooManyDigits whole.length)
        else
          let n := Int.ofNat (digitsValue whole)
          .ok (.int (if negative then -n else n), rest)
      else
        let x := scientific (digitsValue (whole ++ places)) (-Int.ofNat places.length)
        .ok (.float (if negative then -x else x), rest)

theorem readMagnitude_eq (negative : Bool) (start cs : List Char) :
    readMagnitude negative start cs =
      ofParts negative start (wholePart cs).1 (fractionPart (wholePart cs).2).1
        (fractionPart (wholePart cs).2).2 :=
  rfl

theorem wholePart_append (cs : List Char) : (wholePart cs).1 ++ (wholePart cs).2 = cs := by
  have h := takeDigits_append cs
  unfold wholePart
  split
  rename_i run afterRun hrun
  rw [hrun] at h
  split
  · exact h
  · exact h

theorem wholePart_of_head? {cs run rest : List Char} (h : takeDigits cs = (run, rest))
    (hzero : run.head? ≠ some '0') : wholePart cs = (run, rest) := by
  rw [wholePart, h]
  simp only
  split
  · exact absurd rfl hzero
  · rfl

theorem wholePart_of_zero {cs more rest : List Char} (h : takeDigits cs = ('0' :: more, rest)) :
    wholePart cs = (['0'], more ++ rest) := by
  simp only [wholePart, h]

theorem length_fractionPart_snd_le (cs : List Char) : (fractionPart cs).2.length ≤ cs.length := by
  unfold fractionPart
  split
  · rename_i after
    have h := congrArg List.length (takeDigits_append after)
    rw [List.length_append] at h
    dsimp only
    split
    · exact Nat.le_refl _
    · simp only [List.length_cons]
      omega
  · exact Nat.le_refl _

theorem fractionPart_fst_eq_nil_iff {rest : List Char} :
    (fractionPart rest).1 = [] ↔ ∀ after, rest = '.' :: after → NoDigit after := by
  unfold fractionPart
  split
  · rename_i after
    simp only [List.cons.injEq, true_and, forall_eq', ← takeDigits_fst_eq_nil_iff]
    by_cases hafter : (takeDigits after).1 = []
    · simp [hafter]
    · simp [hafter]
  · rename_i hpoint
    exact iff_of_true rfl fun after h => absurd h (hpoint after)

theorem fractionPart_of_fst_eq_nil {rest : List Char} (h : (fractionPart rest).1 = []) :
    fractionPart rest = ([], rest) := by
  unfold fractionPart at h ⊢
  split
  · simp only at h ⊢
    split at h
    · rename_i hempty
      rw [if_pos hempty]
    · rename_i hempty
      exact absurd (List.isEmpty_iff.mpr h) hempty
  · rfl

/-- The digits of an exponent after its sign. -/
def exponentDigits (negative : Bool) (cs : List Char) : Option (Int × List Char) :=
  let (digits, rest) := takeDigits cs
  if digits.isEmpty then none
  else
    let value := Int.ofNat (digitsValue digits)
    some (if negative then -value else value, rest)

theorem readExponent_cons (e : Char) (cs : List Char) :
    readExponent (e :: cs) =
      if e == 'e' || e == 'E' then
        match cs with
        | '-' :: rest => exponentDigits true rest
        | '+' :: rest => exponentDigits false rest
        | rest => exponentDigits false rest
      else none :=
  rfl

/-! ## What is left after a number -/

section Consumes

variable {negative : Bool} {start whole places cs rest : List Char} {exponent : Int} {v : Value}

theorem exponentDigits_consumes (h : exponentDigits negative cs = some (exponent, rest)) :
    rest.length ≤ cs.length := by
  unfold exponentDigits at h
  dsimp only at h
  split at h
  · cases h
  · cases h
    exact (List.dropWhile_sublist _).length_le

theorem readExponent_consumes (h : readExponent cs = some (exponent, rest)) :
    rest.length ≤ cs.length := by
  cases cs with
  | nil => cases h
  | cons e cs =>
      rw [readExponent_cons] at h
      split at h
      · split at h
        all_goals
          have hrest := exponentDigits_consumes h
          simp only [List.length_cons]
          omega
      · cases h

theorem ofParts_consumes (h : ofParts negative start whole places cs = .ok (v, rest)) :
    whole ≠ [] ∧ rest.length ≤ cs.length := by
  unfold ofParts at h
  split at h
  · cases h
  rename_i hwhole
  refine ⟨fun hnil => hwhole (List.isEmpty_iff.mpr hnil), ?_⟩
  split at h
  · rename_i exponent left hexponent
    cases h
    exact readExponent_consumes hexponent
  · split at h
    · split at h
      · cases h
      · cases h
        exact Nat.le_refl _
    · cases h
      exact Nat.le_refl _

theorem readMagnitude_consumes (h : readMagnitude negative start cs = .ok (v, rest)) :
    rest.length < cs.length := by
  rw [readMagnitude_eq] at h
  obtain ⟨hwhole, hrest⟩ := ofParts_consumes h
  have hpos := List.length_pos_of_ne_nil hwhole
  have hfraction := length_fractionPart_snd_le (wholePart cs).2
  have hcs := congrArg List.length (wholePart_append cs)
  rw [List.length_append] at hcs
  omega

end Consumes

/-! ## Long integers -/

/-- What follows makes no other number of an integer: no digit, no fraction and no exponent. -/
structure EndsInteger (rest : List Char) : Prop where
  digit : NoDigit rest
  fraction : ∀ after, rest = '.' :: after → NoDigit after
  exponent : readExponent rest = none

/-- **An integer of more digits than are read**, after its sign. -/
def LongInteger (n : Nat) (cs : List Char) : Prop :=
  ∃ digits rest, cs = digits ++ rest ∧ digits.length = n ∧ digitLimit < n ∧
    (∀ c ∈ digits, isPlainDigit c) ∧ digits.head? ≠ some '0' ∧ EndsInteger rest

/-- A long integer begins with a digit. -/
theorem LongInteger.exists_cons {n : Nat} {cs : List Char} (h : LongInteger n cs) :
    ∃ c rest, cs = c :: rest ∧ isPlainDigit c = true := by
  obtain ⟨digits, rest, rfl, rfl, hlimit, hdigits, -⟩ := h
  cases digits with
  | nil => cases hlimit
  | cons c more => exact ⟨c, more ++ rest, rfl, hdigits c List.mem_cons_self⟩

theorem ofParts_ne_nestedTooDeeply {negative : Bool} {start whole places rest : List Char}
    {follower : String} :
    ofParts negative start whole places rest ≠ .error (.nestedTooDeeply follower) := by
  unfold ofParts
  split
  · exact nofun
  · split
    · exact nofun
    · split
      · split
        · exact nofun
        · exact nofun
      · exact nofun

theorem ofParts_eq_error_iff {negative : Bool} {start whole places rest : List Char} {n : Nat} :
    ofParts negative start whole places rest = .error (.tooManyDigits n) ↔
      whole.length = n ∧ digitLimit < n ∧ places = [] ∧ readExponent rest = none := by
  cases whole with
  | nil =>
      refine iff_of_false nofun ?_
      rintro ⟨rfl, hlimit, -⟩
      cases hlimit
  | cons c more =>
      unfold ofParts
      rw [List.isEmpty_cons, if_neg Bool.false_ne_true]
      cases readExponent rest with
      | some answer => exact iff_of_false nofun nofun
      | none =>
          cases places with
          | cons d others => exact iff_of_false nofun nofun
          | nil =>
              simp only [List.isEmpty_nil, if_true]
              by_cases hlimit : digitLimit < (c :: more).length
              · rw [if_pos hlimit]
                constructor
                · rintro ⟨⟩
                  exact ⟨rfl, hlimit, trivial, trivial⟩
                · rintro ⟨rfl, -⟩
                  rfl
              · rw [if_neg hlimit]
                refine iff_of_false nofun ?_
                rintro ⟨rfl, hlimit', -⟩
                exact hlimit hlimit'

theorem readMagnitude_eq_error_iff {negative : Bool} {start cs : List Char} {n : Nat} :
    readMagnitude negative start cs = .error (.tooManyDigits n) ↔ LongInteger n cs := by
  rw [readMagnitude_eq, ofParts_eq_error_iff]
  constructor
  · rintro ⟨hlength, hlimit, hplaces, hexponent⟩
    obtain ⟨run, rest, hrun⟩ : ∃ run rest, takeDigits cs = (run, rest) := ⟨_, _, rfl⟩
    obtain ⟨hcs, hdigits, hnodigit⟩ := takeDigits_eq_iff.mp hrun
    by_cases hzero : run.head? = some '0'
    · -- a leading zero is an integer of one digit
      obtain ⟨more, rfl⟩ := List.head?_eq_some_iff.mp hzero
      rw [wholePart_of_zero hrun] at hlength
      subst hlength
      exact absurd hlimit (by simp [digitLimit])
    · rw [wholePart_of_head? hrun hzero] at hlength hplaces hexponent
      rw [fractionPart_of_fst_eq_nil hplaces] at hexponent
      exact ⟨run, rest, hcs, hlength, hlimit, hdigits, hzero, hnodigit,
        fractionPart_fst_eq_nil_iff.mp hplaces, hexponent⟩
  · rintro ⟨digits, rest, hcs, hlength, hlimit, hdigits, hzero, hends⟩
    have hrun : takeDigits cs = (digits, rest) := takeDigits_eq_iff.mpr ⟨hcs, hdigits, hends.digit⟩
    have hplaces := fractionPart_fst_eq_nil_iff.mpr hends.fraction
    rw [wholePart_of_head? hrun hzero, fractionPart_of_fst_eq_nil hplaces]
    exact ⟨hlength, hlimit, rfl, hends.exponent⟩

/-! ## Words -/

/-- The words that are values. -/
def words : List (String × Value) :=
  [("null", .null), ("true", .bool true), ("false", .bool false),
   ("NaN", .float (Float.ofBits 0x7FF8000000000000)),
   ("Infinity", .float (Float.ofBits 0x7FF0000000000000)),
   ("-Infinity", .float (Float.ofBits 0xFFF0000000000000))]

/-- The value of the word that a text begins with, and what is left after it. -/
def readWord? (cs : List Char) : Option (Value × List Char) :=
  words.findSome? fun (word, v) => (afterWord? word.toList cs).map fun rest => (v, rest)

theorem readAtom_eq (cs : List Char) :
    readAtom cs =
      match readWord? cs with
      | some reading => .ok reading
      | none =>
        match cs with
        | '-' :: rest => readMagnitude true cs rest
        | _ => readMagnitude false cs cs :=
  rfl

theorem length_pos_of_mem_words {word : String} {v : Value} (h : (word, v) ∈ words) :
    0 < word.toList.length := by
  have hall : ∀ entry ∈ words, 0 < entry.1.toList.length := by
    simp [words]
  exact hall _ h

theorem readWord?_consumes {cs rest : List Char} {v : Value} (h : readWord? cs = some (v, rest)) :
    rest.length < cs.length := by
  obtain ⟨⟨word, v'⟩, hmem, h⟩ := List.exists_of_findSome?_eq_some h
  obtain ⟨rest', h, heq⟩ := Option.map_eq_some_iff.mp h
  cases heq
  have hword := length_pos_of_mem_words hmem
  unfold afterWord? at h
  split at h
  · rename_i hprefix
    cases h
    have hle := (List.isPrefixOf_iff_prefix.mp hprefix).length_le
    rw [List.length_drop]
    omega
  · cases h

/-- No word begins with a digit, whether a sign stands before it or not. -/
theorem readWord?_of_digit {c : Char} {cs : List Char} (hc : isPlainDigit c = true) :
    readWord? (c :: cs) = none ∧ readWord? ('-' :: c :: cs) = none := by
  have hne : ∀ d, isPlainDigit d = false → d ≠ c := by
    rintro d hd rfl
    rw [hc] at hd
    cases hd
  have hn := hne 'n' (by decide)
  have ht := hne 't' (by decide)
  have hf := hne 'f' (by decide)
  have hN := hne 'N' (by decide)
  have hI := hne 'I' (by decide)
  have hminus := hne '-' (by decide)
  simp [readWord?, words, afterWord?, hn, ht, hf, hN, hI, hminus]

/-! ## Numbers and words -/

theorem readAtom_consumes {cs rest : List Char} {v : Value} (h : readAtom cs = .ok (v, rest)) :
    rest.length < cs.length := by
  rw [readAtom_eq] at h
  split at h
  · rename_i reading hword
    cases h
    exact readWord?_consumes hword
  · split at h
    · have hrest := readMagnitude_consumes h
      rw [List.length_cons]
      omega
    · exact readMagnitude_consumes h

/-- No number and no word is nested. -/
theorem readAtom_ne_nestedTooDeeply {cs : List Char} {follower : String} :
    readAtom cs ≠ .error (.nestedTooDeeply follower) := by
  rw [readAtom_eq]
  split
  · exact nofun
  · split
    · rw [readMagnitude_eq]
      exact ofParts_ne_nestedTooDeeply
    · rw [readMagnitude_eq]
      exact ofParts_ne_nestedTooDeeply

/-- **A number or word is refused for its digits exactly if it is a long integer**, with a sign or
without. -/
theorem readAtom_eq_error_iff {cs : List Char} {n : Nat} :
    readAtom cs = .error (.tooManyDigits n) ↔
      LongInteger n cs ∨ ∃ rest, cs = '-' :: rest ∧ LongInteger n rest := by
  constructor
  · intro h
    rw [readAtom_eq] at h
    split at h
    · cases h
    · split at h
      · exact .inr ⟨_, rfl, readMagnitude_eq_error_iff.mp h⟩
      · exact .inl (readMagnitude_eq_error_iff.mp h)
  · rintro (h | ⟨rest, rfl, h⟩)
    · obtain ⟨c, rest, rfl, hc⟩ := h.exists_cons
      have hminus : c ≠ '-' := by
        rintro rfl
        exact absurd hc (by decide)
      rw [readAtom_eq, (readWord?_of_digit hc).1]
      simp only
      split
      · rename_i heq
        exact absurd (List.cons.inj heq).1 hminus
      · exact readMagnitude_eq_error_iff.mpr h
    · obtain ⟨c, more, rfl, hc⟩ := h.exists_cons
      rw [readAtom_eq, (readWord?_of_digit hc).2]
      exact readMagnitude_eq_error_iff.mpr h

end PromptTree.Json
