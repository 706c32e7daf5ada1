import PromptTree.Proofs.Json.Readers
import PromptTree.Proofs.Value.Written

/-!
# What is read can be written

An integer is refused if it has more digits than are read, and as many are written.  So **the value
of a JSON text can be written** (`isWritable_of_parse`): the failure to write an integer never
comes from a document, only from what a caller hands over.

It is shown for one step of each reader, and by induction on the fuel (`keepsWritable`).
-/

namespace PromptTree.Json

open PromptTree.Numeral PromptTree.Text

/-! ## Numbers -/

theorem digitsValue_lt {digits : List Char} (h : ∀ c ∈ digits, isPlainDigit c = true) :
    digitsValue digits < 10 ^ digits.length := by
  -- what was read before counts for as many tens as digits follow
  have hfold : ∀ start, digits.foldl (fun value c => value * 10 + (c.toNat - 0x30)) start <
      (start + 1) * 10 ^ digits.length := by
    induction digits with
    | nil => simp
    | cons c rest ih =>
        intro start
        obtain ⟨hc, hrest⟩ := List.forall_mem_cons.mp h
        have hdigit : c.toNat - 0x30 < 10 := by
          have hle := (Bool.and_eq_true_iff.mp hc).2
          have hle : c.toNat ≤ 0x39 := of_decide_eq_true hle
          omega
        rw [List.foldl_cons, List.length_cons, Nat.pow_succ']
        refine Nat.lt_of_lt_of_le (ih hrest _) ?_
        rw [← Nat.mul_assoc]
        exact Nat.mul_le_mul_right _ (by omega)
  simpa [digitsValue] using hfold 0

theorem isPlainDigit_of_mem_wholePart {c : Char} {cs : List Char} (h : c ∈ (wholePart cs).1) :
    isPlainDigit c = true := by
  have hrun : ∀ c ∈ (takeDigits cs).1, isPlainDigit c = true :=
    fun c hc => List.all_eq_true.mp List.all_takeWhile c hc
  unfold wholePart at h
  dsimp only at h
  split at h
  · obtain rfl := List.mem_singleton.mp h
    rfl
  · exact hrun c h

theorem ofParts_writable {negative : Bool} {start whole places cs rest : List Char} {v : Value}
    (hdigits : ∀ c ∈ whole, isPlainDigit c = true)
    (h : ofParts negative start whole places cs = .ok (v, rest)) : v.isWritable = true := by
  unfold ofParts at h
  split at h
  · cases h
  split at h
  · cases h
    rfl
  split at h
  · split at h
    · cases h
    · rename_i hlength
      cases h
      have hlt := Nat.lt_of_lt_of_le (digitsValue_lt hdigits)
        (Nat.pow_le_pow_right (by decide) (Nat.not_lt.mp hlength))
      rw [Value.isWritable, Numeral.isWritable_iff_lt_pow]
      cases negative with
      | _ => simpa using hlt
  · cases h
    rfl

/-! ## Values -/

theorem readAtom_writable {cs rest : List Char} {v : Value} (h : readAtom cs = .ok (v, rest)) :
    v.isWritable = true := by
  have hwords : ∀ entry ∈ words, entry.2.isWritable = true := by
    simp [words, Value.isWritable]
  have hmagnitude : ∀ {negative : Bool} {start cs : List Char},
      readMagnitude negative start cs = .ok (v, rest) → v.isWritable = true :=
    fun hread => ofParts_writable (fun c => isPlainDigit_of_mem_wholePart) hread
  rw [readAtom_eq] at h
  split at h
  · rename_i reading hword
    cases h
    obtain ⟨⟨word, v'⟩, hmem, hafter⟩ := List.exists_of_findSome?_eq_some hword
    obtain ⟨_, -, heq⟩ := Option.map_eq_some_iff.mp hafter
    cases heq
    exact hwords _ hmem
  · split at h
    · exact hmagnitude h
    · exact hmagnitude h

theorem eq_or_mem_of_mem_put {key : String} {value : Value} {entries : Entries}
    {entry : String × Value} (h : entry ∈ Entries.put key value entries) :
    entry = (key, value) ∨ entry ∈ entries := by
  induction entries with
  | nil => exact .inl (List.mem_singleton.mp h)
  | cons first rest ih =>
      unfold Entries.put at h
      split at h
      · exact (List.mem_cons.mp h).imp_right (List.mem_cons_of_mem _)
      · obtain rfl | hrest := List.mem_cons.mp h
        · exact .inr List.mem_cons_self
        · exact (ih hrest).imp_right (List.mem_cons_of_mem _)

/-- An object has no other entries than its members. -/
theorem mem_of_mem_ofList {members : List (String × Value)} {entry : String × Value}
    (h : entry ∈ Entries.ofList members) : entry ∈ members := by
  have hoverlay : ∀ entries, entry ∈ Entries.overlay entries members →
      entry ∈ entries ∨ entry ∈ members := by
    clear h
    induction members with
    | nil => exact fun _ hentry => .inl hentry
    | cons member rest ih =>
        intro entries hentry
        obtain hput | hrest := ih _ hentry
        · exact (eq_or_mem_of_mem_put hput).symm.imp_right fun heq => by simp [heq]
        · exact .inr (List.mem_cons_of_mem _ hrest)
  exact (hoverlay [] h).resolve_left List.not_mem_nil

/-- What the readers give can be written, if what they have read before can be. -/
structure KeepsWritable (fuel : Nat) : Prop where
  value {room : Nat} {cs rest : List Char} {v : Value}
    (h : readValue fuel room cs = .ok (v, rest)) : v.isWritable = true
  items {room : Nat} {done items : List Value} {cs rest : List Char}
    (hdone : ∀ v ∈ done, v.isWritable = true)
    (h : readItems fuel room done cs = .ok (items, rest)) : ∀ v ∈ items, v.isWritable = true
  members {room : Nat} {done members : List (String × Value)} {cs rest : List Char}
    (hdone : ∀ member ∈ done, member.2.isWritable = true)
    (h : readMembers fuel room done cs = .ok (members, rest)) :
    ∀ member ∈ members, member.2.isWritable = true

section Steps

variable {fuel room : Nat} {cs rest : List Char}

theorem readValue_writable (hkeeps : KeepsWritable fuel) {v : Value}
    (h : readValue (fuel + 1) room cs = .ok (v, rest)) : v.isWritable = true := by
  obtain ⟨more, rfl⟩ | ⟨more, rfl⟩ | ⟨more, rfl⟩ | hatom := beginning cs
  · rw [readValue_string] at h
    obtain ⟨⟨s, left⟩, -, heq⟩ := map_eq_ok_iff.mp h
    cases heq
    rfl
  · cases room with
    | zero => cases h
    | succ room =>
        rw [readValue_list] at h
        split at h
        · cases h
          rfl
        · obtain ⟨⟨items, left⟩, hitems, heq⟩ := map_eq_ok_iff.mp h
          cases heq
          exact Value.isWritable_list_iff.mpr (hkeeps.items (List.forall_mem_nil _) hitems)
  · cases room with
    | zero => cases h
    | succ room =>
        rw [readValue_object] at h
        split at h
        · cases h
          rfl
        · obtain ⟨⟨members, left⟩, hmembers, heq⟩ := map_eq_ok_iff.mp h
          cases heq
          have hall := hkeeps.members (List.forall_mem_nil _) hmembers
          refine Value.isWritable_object_iff.mpr fun entry hentry => ?_
          exact hall entry (mem_of_mem_ofList hentry)
  · rw [readValue_atom fuel room hatom] at h
    exact readAtom_writable h

theorem readItems_writable (hkeeps : KeepsWritable fuel) {done items : List Value}
    (hdone : ∀ v ∈ done, v.isWritable = true)
    (h : readItems (fuel + 1) room done cs = .ok (items, rest)) :
    ∀ v ∈ items, v.isWritable = true := by
  rw [readItems_succ] at h
  split at h
  · cases h
  rename_i v left hv
  have hall : ∀ item ∈ v :: done, item.isWritable = true :=
    List.forall_mem_cons.mpr ⟨hkeeps.value hv, hdone⟩
  split at h
  · exact hkeeps.items hall h
  · cases h
    exact fun item hmem => hall item (List.mem_reverse.mp hmem)
  · cases h

theorem readMembers_writable (hkeeps : KeepsWritable fuel) {done members : List (String × Value)}
    (hdone : ∀ member ∈ done, member.2.isWritable = true)
    (h : readMembers (fuel + 1) room done cs = .ok (members, rest)) :
    ∀ member ∈ members, member.2.isWritable = true := by
  rw [readMembers_succ] at h
  split at h
  · cases h
  rename_i name after hname
  split at h
  · cases h
  rename_i v left hv
  have hall : ∀ member ∈ (name, v) :: done, member.2.isWritable = true :=
    List.forall_mem_cons.mpr ⟨hkeeps.value hv, hdone⟩
  split at h
  · exact hkeeps.members hall h
  · cases h
    exact fun member hmem => hall member (List.mem_reverse.mp hmem)
  · cases h

end Steps

theorem keepsWritable (fuel : Nat) : KeepsWritable fuel := by
  induction fuel with
  | zero => exact ⟨nofun, nofun, nofun⟩
  | succ fuel ih =>
      exact ⟨readValue_writable ih, readItems_writable ih, readMembers_writable ih⟩

/-- **The value of a JSON text can be written.** -/
theorem isWritable_of_parse [NestingLimits] {text : String} {v : Value} (h : parse text = .ok v) :
    v.isWritable = true := by
  unfold parse parseChars at h
  split at h
  · cases h
  · split at h
    · cases h
    · rename_i value rest hvalue
      split at h
      · cases h
        exact (keepsWritable _).value hvalue
      · cases h

end PromptTree.Json
