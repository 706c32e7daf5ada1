import Mathlib.Data.List.Basic
import Mathlib.Tactic.SplitIfs
import PromptTree.Text.Utf8

/-!
# Bytes that are texts

The decoder reads one byte at a time, keeps the character that it is in, and knows only the
bounds of the next byte.  Here it is held to the standard: bytes are read as a text exactly if
they are the bytes of that text (`Utf8.decode_eq_ok_iff`).

Both directions go along the well-formed sequences of one to four bytes (`Utf8.Sequence`).
They are the bytes of the characters (`sequence_iff`); the decoder reads a sequence as one
character (`decodeFrom_sequence`), and what it reads begins with a sequence
(`exists_sequence`).
-/

namespace PromptTree.Text.Utf8

/-! ## Sequences -/

/-- The least second byte after a first one: a character is written in as few bytes as can be. -/
def lowSecond (a : UInt8) : Nat :=
  if a.toNat = 0xE0 then 0xA0 else if a.toNat = 0xF0 then 0x90 else 0x80

/-- The greatest second byte after a first one: there are no surrogates, and nothing is beyond
the last character. -/
def highSecond (a : UInt8) : Nat :=
  if a.toNat = 0xED then 0x9F else if a.toNat = 0xF4 then 0x8F else 0xBF

/-- The byte continues a sequence. -/
def Follows (b : UInt8) : Prop :=
  0x80 ≤ b.toNat ∧ b.toNat ≤ 0xBF

/-- **A well-formed sequence** of bytes, and the code of its character. -/
inductive Sequence : List UInt8 → Nat → Prop where
  | one {a : UInt8} (ha : a.toNat < 0x80) : Sequence [a] a.toNat
  | two {a b : UInt8} (ha : 0xC2 ≤ a.toNat) (ha' : a.toNat < 0xE0) (hb : Follows b) :
      Sequence [a, b] ((a.toNat - 0xC0) * 64 + (b.toNat - 0x80))
  | three {a b c : UInt8} (ha : 0xE0 ≤ a.toNat) (ha' : a.toNat < 0xF0)
      (hb : lowSecond a ≤ b.toNat ∧ b.toNat ≤ highSecond a) (hc : Follows c) :
      Sequence [a, b, c] (((a.toNat - 0xE0) * 64 + (b.toNat - 0x80)) * 64 + (c.toNat - 0x80))
  | four {a b c d : UInt8} (ha : 0xF0 ≤ a.toNat) (ha' : a.toNat ≤ 0xF4)
      (hb : lowSecond a ≤ b.toNat ∧ b.toNat ≤ highSecond a) (hc : Follows c) (hd : Follows d) :
      Sequence [a, b, c, d]
        ((((a.toNat - 0xF0) * 64 + (b.toNat - 0x80)) * 64 + (c.toNat - 0x80)) * 64 +
          (d.toNat - 0x80))

namespace Sequence

variable {bytes : List UInt8} {code : Nat}

theorem of_code_eq {other : Nat} (h : Sequence bytes code) (heq : code = other) :
    Sequence bytes other :=
  heq ▸ h

/-- The code of a sequence is that of a character. -/
theorem isValidChar (h : Sequence bytes code) : code.isValidChar := by
  unfold Nat.isValidChar
  cases h with
  | one ha => omega
  | @two a b ha ha' hb =>
      obtain ⟨hb, hb'⟩ := hb
      omega
  | @three a b c ha ha' hb hc =>
      obtain ⟨hc, hc'⟩ := hc
      unfold lowSecond highSecond at hb
      split_ifs at hb <;> omega
  | @four a b c d ha ha' hb hc hd =>
      obtain ⟨hc, hc'⟩ := hc
      obtain ⟨hd, hd'⟩ := hd
      unfold lowSecond highSecond at hb
      split_ifs at hb <;> omega

end Sequence

/-- The bytes of a code. -/
def encodeCode (v : Nat) : List UInt8 :=
  if v ≤ 0x7F then [.ofNat v]
  else if v ≤ 0x7FF then [.ofNat (v / 64 % 0x20 + 0xC0), .ofNat (v % 0x40 + 0x80)]
  else if v ≤ 0xFFFF then
    [.ofNat (v / 4096 % 0x10 + 0xE0), .ofNat (v / 64 % 0x40 + 0x80), .ofNat (v % 0x40 + 0x80)]
  else
    [.ofNat (v / 262144 % 0x08 + 0xF0), .ofNat (v / 4096 % 0x40 + 0x80),
     .ofNat (v / 64 % 0x40 + 0x80), .ofNat (v % 0x40 + 0x80)]

theorem utf8EncodeChar_eq (c : Char) : String.utf8EncodeChar c = encodeCode c.toNat := rfl

/-- The bytes of a code are a sequence. -/
theorem sequence_encodeCode {v : Nat} (h : v.isValidChar) : Sequence (encodeCode v) v := by
  have hbyte : ∀ {n : Nat}, n < 256 → (UInt8.ofNat n).toNat = n := UInt8.toNat_ofNat_of_lt
  unfold Nat.isValidChar at h
  unfold encodeCode
  split_ifs with h1 h2 h3
  · have ha := hbyte (n := v) (by omega)
    exact (Sequence.one (by omega)).of_code_eq ha
  · have ha := hbyte (n := v / 64 % 0x20 + 0xC0) (by omega)
    have hb := hbyte (n := v % 0x40 + 0x80) (by omega)
    refine (Sequence.two ?_ ?_ ⟨?_, ?_⟩).of_code_eq ?_ <;> omega
  · have ha := hbyte (n := v / 4096 % 0x10 + 0xE0) (by omega)
    have hb := hbyte (n := v / 64 % 0x40 + 0x80) (by omega)
    have hc := hbyte (n := v % 0x40 + 0x80) (by omega)
    refine (Sequence.three ?_ ?_ ?_ ⟨?_, ?_⟩).of_code_eq ?_
    case refine_3 =>
      unfold lowSecond highSecond
      split_ifs <;> omega
    all_goals omega
  · have ha := hbyte (n := v / 262144 % 0x08 + 0xF0) (by omega)
    have hb := hbyte (n := v / 4096 % 0x40 + 0x80) (by omega)
    have hc := hbyte (n := v / 64 % 0x40 + 0x80) (by omega)
    have hd := hbyte (n := v % 0x40 + 0x80) (by omega)
    refine (Sequence.four ?_ ?_ ?_ ⟨?_, ?_⟩ ⟨?_, ?_⟩).of_code_eq ?_
    case refine_3 =>
      unfold lowSecond highSecond
      split_ifs <;> omega
    all_goals omega

/-- A sequence consists of the bytes of its code. -/
theorem Sequence.eq_encodeCode {bytes : List UInt8} {code : Nat} (h : Sequence bytes code) :
    bytes = encodeCode code := by
  have hbyte : ∀ {n : Nat} {a : UInt8}, a.toNat = n → a = .ofNat n := by
    rintro n a rfl
    exact (UInt8.ofNat_toNat).symm
  have hcode := h.isValidChar
  unfold Nat.isValidChar at hcode
  unfold encodeCode
  cases h with
  | one ha =>
      rw [if_pos (by omega)]
      exact congrArg (· :: []) (hbyte rfl)
  | @two a b ha ha' hb =>
      obtain ⟨hb, hb'⟩ := hb
      rw [if_neg (by omega), if_pos (by omega), ← hbyte (a := a) (by omega),
        ← hbyte (a := b) (by omega)]
  | @three a b c ha ha' hb hc =>
      obtain ⟨hc, hc'⟩ := hc
      -- the first byte 0xE0 alone would leave room for a code of two bytes
      have hsecond : 0x80 ≤ b.toNat ∧ b.toNat ≤ 0xBF ∧ (a.toNat = 0xE0 → 0xA0 ≤ b.toNat) := by
        unfold lowSecond highSecond at hb
        split_ifs at hb <;> omega
      rw [if_neg (by omega), if_neg (by omega), if_pos (by omega), ← hbyte (a := a) (by omega),
        ← hbyte (a := b) (by omega), ← hbyte (a := c) (by omega)]
  | @four a b c d ha ha' hb hc hd =>
      obtain ⟨hc, hc'⟩ := hc
      obtain ⟨hd, hd'⟩ := hd
      have hsecond : 0x80 ≤ b.toNat ∧ b.toNat ≤ 0xBF ∧ (a.toNat = 0xF0 → 0x90 ≤ b.toNat) := by
        unfold lowSecond highSecond at hb
        split_ifs at hb <;> omega
      rw [if_neg (by omega), if_neg (by omega), if_neg (by omega), ← hbyte (a := a) (by omega),
        ← hbyte (a := b) (by omega), ← hbyte (a := c) (by omega), ← hbyte (a := d) (by omega)]

/-- **The sequences are the bytes of the characters.** -/
theorem sequence_iff {bytes : List UInt8} {code : Nat} :
    Sequence bytes code ↔ ∃ c : Char, String.utf8EncodeChar c = bytes ∧ c.toNat = code := by
  constructor
  · intro h
    have hcode : (Char.ofNat code).toNat = code := by
      rw [Char.ofNat, dif_pos h.isValidChar]
      rfl
    exact ⟨Char.ofNat code, by rw [utf8EncodeChar_eq, hcode, ← h.eq_encodeCode], hcode⟩
  · rintro ⟨c, rfl, rfl⟩
    exact sequence_encodeCode c.valid

/-! ## Characters that are opened -/

section Opening

variable {a : UInt8}

theorem open?_one (h : a.toNat < 0x80) :
    open? a = some { value := a.toNat, owed := 0, read := [a] } := by
  simp [open?, h]

theorem open?_two (h : 0xC2 ≤ a.toNat) (h' : a.toNat < 0xE0) :
    open? a = some { value := a.toNat - 0xC0, owed := 1, read := [a] } := by
  have hone : ¬a.toNat < 0x80 := by omega
  simp [open?, hone, Nat.not_lt.mpr h, h']

theorem open?_three (h : 0xE0 ≤ a.toNat) (h' : a.toNat < 0xF0) :
    open? a = some
      { value := a.toNat - 0xE0, owed := 2, low := lowSecond a, high := highSecond a,
        read := [a] } := by
  have hone : ¬a.toNat < 0x80 := by omega
  have hnone : ¬a.toNat < 0xC2 := by omega
  have hF0 : a.toNat ≠ 0xF0 := by omega
  have hF4 : a.toNat ≠ 0xF4 := by omega
  by_cases hE0 : a.toNat = 0xE0
  · simp [open?, lowSecond, highSecond, hE0]
  by_cases hED : a.toNat = 0xED
  · simp [open?, lowSecond, highSecond, hED]
  · simp [open?, lowSecond, highSecond, hone, hnone, Nat.not_lt.mpr h, h', hE0, hED, hF0, hF4]

theorem open?_four (h : 0xF0 ≤ a.toNat) (h' : a.toNat ≤ 0xF4) :
    open? a = some
      { value := a.toNat - 0xF0, owed := 3, low := lowSecond a, high := highSecond a,
        read := [a] } := by
  have hone : ¬a.toNat < 0x80 := by omega
  have hnone : ¬a.toNat < 0xC2 := by omega
  have htwo : ¬a.toNat < 0xE0 := by omega
  have hE0 : a.toNat ≠ 0xE0 := by omega
  have hED : a.toNat ≠ 0xED := by omega
  by_cases hF0 : a.toNat = 0xF0
  · simp [open?, lowSecond, highSecond, hF0]
  by_cases hF4 : a.toNat = 0xF4
  · simp [open?, lowSecond, highSecond, hF4]
  · have hlt : a.toNat < 0xF4 := by omega
    simp [open?, lowSecond, highSecond, hone, hnone, htwo, hE0, hED, Nat.not_lt.mpr h, hlt, hF0,
      hF4]

theorem open?_none (h : 0x80 ≤ a.toNat ∧ a.toNat < 0xC2 ∨ 0xF4 < a.toNat) : open? a = none := by
  unfold open?
  obtain ⟨h, h'⟩ | h := h
  · simp only [Nat.not_lt.mpr h, h', if_true, if_false]
  · simp only
    rw [if_neg (by omega), if_neg (by omega), if_neg (by omega), if_neg (by omega),
      if_neg (by omega), if_neg (by omega), if_neg (by omega), if_neg (by omega),
      if_neg (by omega)]

end Opening

section Continuing

variable {value owed low high offset : Nat} {read : List UInt8} {b : UInt8} {bytes : List UInt8}
  {done cs : List Char}

theorem continue?_of_bounds (h : low ≤ b.toNat ∧ b.toNat ≤ high) :
    Open.continue? ⟨value, owed, low, high, read⟩ b =
      some ⟨value * 64 + (b.toNat - 0x80), owed - 1, 0x80, 0xBF, b :: read⟩ :=
  if_pos h

theorem continue?_of_follows (h : Follows b) :
    Open.continue? ⟨value, owed, 0x80, 0xBF, read⟩ b =
      some ⟨value * 64 + (b.toNat - 0x80), owed - 1, 0x80, 0xBF, b :: read⟩ :=
  continue?_of_bounds h

/-- A character that is being read goes on with a byte between its bounds. -/
theorem exists_of_decodeFrom_open
    (h : decodeFrom offset done (some ⟨value, owed, low, high, read⟩) bytes = .ok cs) :
    ∃ b rest, bytes = b :: rest ∧ (low ≤ b.toNat ∧ b.toNat ≤ high) ∧
      (owed - 1 ≠ 0 → decodeFrom (offset + 1) done
        (some ⟨value * 64 + (b.toNat - 0x80), owed - 1, 0x80, 0xBF, b :: read⟩) rest = .ok cs) := by
  cases bytes with
  | nil => cases h
  | cons b rest =>
      by_cases hb : low ≤ b.toNat ∧ b.toNat ≤ high
      · refine ⟨b, rest, rfl, hb, fun howed => ?_⟩
        simp only [decodeFrom, continue?_of_bounds hb, if_neg howed] at h
        exact h
      · rw [decodeFrom, Open.continue?, if_neg hb] at h
        cases h

end Continuing

/-! ## Texts -/

/-- **A sequence is read as one character.** -/
theorem decodeFrom_sequence {bytes : List UInt8} {code : Nat} (h : Sequence bytes code)
    (offset : Nat) (done : List Char) (later : List UInt8) :
    decodeFrom offset done none (bytes ++ later) =
      decodeFrom (offset + bytes.length) (Char.ofNat code :: done) none later := by
  cases h with
  | one ha => simp [decodeFrom, open?_one ha]
  | two ha ha' hb => simp [decodeFrom, open?_two ha ha', continue?_of_follows hb]
  | three ha ha' hb hc =>
      simp [decodeFrom, open?_three ha ha', continue?_of_bounds hb, continue?_of_follows hc]
  | four ha ha' hb hc hd =>
      simp [decodeFrom, open?_four ha ha', continue?_of_bounds hb, continue?_of_follows hc,
        continue?_of_follows hd]

/-- **What is read begins with a sequence.** -/
theorem exists_sequence {offset : Nat} {done cs : List Char} {a : UInt8} {rest : List UInt8}
    (h : decodeFrom offset done none (a :: rest) = .ok cs) :
    ∃ bytes code later, Sequence bytes code ∧ a :: rest = bytes ++ later := by
  -- the first byte tells how many there are, in the order in which the decoder asks
  by_cases hone : a.toNat < 0x80
  · exact ⟨_, _, rest, .one hone, rfl⟩
  by_cases hnone : a.toNat < 0xC2 ∨ 0xF4 < a.toNat
  · rw [decodeFrom, open?_none (by omega)] at h
    cases h
  by_cases htwo : a.toNat < 0xE0
  · have ha : 0xC2 ≤ a.toNat := by omega
    rw [decodeFrom, open?_two ha htwo] at h
    obtain ⟨b, later, rfl, hb, -⟩ := exists_of_decodeFrom_open h
    exact ⟨_, _, later, .two ha htwo hb, rfl⟩
  by_cases hthree : a.toNat < 0xF0
  · have ha : 0xE0 ≤ a.toNat := by omega
    rw [decodeFrom, open?_three ha hthree] at h
    obtain ⟨b, _, rfl, hb, h⟩ := exists_of_decodeFrom_open h
    obtain ⟨c, later, rfl, hc, -⟩ := exists_of_decodeFrom_open (h (by decide))
    exact ⟨_, _, later, .three ha hthree hb hc, rfl⟩
  · have ha : 0xF0 ≤ a.toNat := by omega
    have ha' : a.toNat ≤ 0xF4 := by omega
    rw [decodeFrom, open?_four ha ha'] at h
    obtain ⟨b, _, rfl, hb, h⟩ := exists_of_decodeFrom_open h
    obtain ⟨c, _, rfl, hc, h⟩ := exists_of_decodeFrom_open (h (by decide))
    obtain ⟨d, later, rfl, hd, -⟩ := exists_of_decodeFrom_open (h (by decide))
    exact ⟨_, _, later, .four ha ha' hb hc hd, rfl⟩

/-- The bytes of a text. -/
def encode (chars : List Char) : List UInt8 :=
  chars.flatMap String.utf8EncodeChar

theorem decodeFrom_encode (chars : List Char) (offset : Nat) (done : List Char) :
    decodeFrom offset done none (encode chars) = .ok (done.reverse ++ chars) := by
  induction chars generalizing offset done with
  | nil => simp [encode, decodeFrom]
  | cons c rest ih =>
      have hsequence : Sequence (String.utf8EncodeChar c) c.toNat := sequence_iff.mpr ⟨c, rfl, rfl⟩
      rw [encode, List.flatMap_cons, decodeFrom_sequence hsequence, Char.ofNat_toNat, ← encode, ih,
        List.reverse_cons, List.append_assoc, List.singleton_append]

/-- Bytes that are read as any text are the bytes of some text. -/
theorem exists_eq_encode {bytes : List UInt8} {offset : Nat} {done cs : List Char}
    (h : decodeFrom offset done none bytes = .ok cs) : ∃ chars, bytes = encode chars := by
  -- the sequences are of several lengths, so the induction is on the length of the bytes
  induction hlength : bytes.length using Nat.strongRecOn generalizing bytes offset done with
  | ind n ih =>
      cases bytes with
      | nil => exact ⟨[], rfl⟩
      | cons a rest =>
          obtain ⟨bytes, code, later, hsequence, heq⟩ := exists_sequence h
          obtain ⟨c, rfl, -⟩ := sequence_iff.mp hsequence
          have hlater : later.length < n := by
            have hpos := List.length_pos_of_ne_nil (String.utf8EncodeChar_ne_nil (c := c))
            rw [← hlength, heq, List.length_append]
            omega
          rw [heq, decodeFrom_sequence hsequence] at h
          obtain ⟨chars, rfl⟩ := ih _ hlater h rfl
          exact ⟨c :: chars, heq⟩

/-- **Bytes are read as a text exactly if they are the bytes of that text.** -/
theorem decode_eq_ok_iff {bytes : List UInt8} {chars : List Char} :
    decode bytes = .ok chars ↔ bytes = encode chars := by
  constructor
  · intro h
    obtain ⟨others, rfl⟩ := exists_eq_encode h
    rw [decode, decodeFrom_encode] at h
    rw [← Except.ok.inj h, List.reverse_nil, List.nil_append]
  · rintro rfl
    exact decodeFrom_encode chars 0 []

/-- Bytes that are no text are refused, and no others. -/
theorem exists_decode_eq_error_iff {bytes : List UInt8} :
    (∃ fault, decode bytes = .error fault) ↔ ¬∃ chars, bytes = encode chars := by
  cases hdecode : decode bytes with
  | ok chars =>
      exact iff_of_false nofun (not_not_intro ⟨chars, decode_eq_ok_iff.mp hdecode⟩)
  | error fault =>
      refine iff_of_true ⟨fault, rfl⟩ ?_
      rintro ⟨chars, hchars⟩
      rw [decode_eq_ok_iff.mpr hchars] at hdecode
      cases hdecode

end PromptTree.Text.Utf8
