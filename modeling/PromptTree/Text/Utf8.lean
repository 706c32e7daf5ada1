import PromptTree.Text.Quoted

/-!
# Bytes as text

UTF-8, read one byte at a time.  What cannot be read is told by the place and the bytes of
the sequence that is not well-formed: those up to the first byte that rules it out.

## Main Definitions

* `Utf8.decode` — the text of bytes.
* `Utf8.Fault` — an ill-formed sequence, its place and the reason.
* `Utf8.plainNewlines` — a text whose lines all end in the same way.
-/

namespace PromptTree.Text.Utf8

/-- Why a sequence is ill-formed. -/
inductive Reason where
  | start
  | continuation
  | ended
  deriving Repr, DecidableEq

/-- The reason in words. -/
def Reason.text : Reason → String
  | .start => "invalid start byte"
  | .continuation => "invalid continuation byte"
  | .ended => "unexpected end of data"

/-- An ill-formed sequence: its offset, its bytes and the reason. -/
structure Fault where
  offset : Nat
  bytes : List UInt8
  reason : Reason
  deriving Repr, DecidableEq

/-- The fault in words. -/
def Fault.message (fault : Fault) : String :=
  let place :=
    match fault.bytes with
    | [b] => "byte 0x" ++ String.ofList (hexDigits 2 b.toNat) ++ " in position " ++
      toString fault.offset
    | bytes => "bytes in position " ++ toString fault.offset ++ "-" ++
      toString (fault.offset + bytes.length - 1)
  "'utf-8' codec can't decode " ++ place ++ ": " ++ fault.reason.text

/-- A character that is being read: its value so far, how many bytes are owed, between which
bounds the next one has to be, and the bytes read, last first. -/
structure Open where
  value : Nat
  owed : Nat
  low : Nat := 0x80
  high : Nat := 0xBF
  read : List UInt8

/-- The character that a byte opens. -/
def open? (b : UInt8) : Option Open :=
  let n := b.toNat
  if n < 0x80 then some { value := n, owed := 0, read := [b] }
  else if n < 0xC2 then none
  else if n < 0xE0 then some { value := n - 0xC0, owed := 1, read := [b] }
  else if n = 0xE0 then some { value := 0, owed := 2, low := 0xA0, read := [b] }
  else if n = 0xED then some { value := 0xD, owed := 2, high := 0x9F, read := [b] }
  else if n < 0xF0 then some { value := n - 0xE0, owed := 2, read := [b] }
  else if n = 0xF0 then some { value := 0, owed := 3, low := 0x90, read := [b] }
  else if n < 0xF4 then some { value := n - 0xF0, owed := 3, read := [b] }
  else if n = 0xF4 then some { value := 4, owed := 3, high := 0x8F, read := [b] }
  else none

/-- A character with one more of its bytes. -/
def Open.continue? (char : Open) (b : UInt8) : Option Open :=
  if char.low ≤ b.toNat ∧ b.toNat ≤ char.high then
    some { value := char.value * 64 + (b.toNat - 0x80), owed := char.owed - 1,
           read := b :: char.read }
  else none

/-- The fault of a character that stops before an offset. -/
def Open.fault (char : Open) (offset : Nat) (reason : Reason) : Fault :=
  ⟨offset - char.read.length, char.read.reverse, reason⟩

/-- Reads the rest of a text from an offset on, given the characters read, last first, and the
one that is being read. -/
def decodeFrom (offset : Nat) (done : List Char) :
    Option Open → List UInt8 → Except Fault (List Char)
  | none, [] => .ok done.reverse
  | some char, [] => .error (char.fault offset .ended)
  | none, b :: rest =>
    match open? b with
    | none => .error ⟨offset, [b], .start⟩
    | some char =>
      if char.owed = 0 then decodeFrom (offset + 1) (Char.ofNat char.value :: done) none rest
      else decodeFrom (offset + 1) done (some char) rest
  | some char, b :: rest =>
    match char.continue? b with
    | none => .error (char.fault offset .continuation)
    | some char =>
      if char.owed = 0 then decodeFrom (offset + 1) (Char.ofNat char.value :: done) none rest
      else decodeFrom (offset + 1) done (some char) rest

/-- The text of bytes. -/
def decode (bytes : List UInt8) : Except Fault (List Char) :=
  decodeFrom 0 [] none bytes

/-- A text with a line feed at the end of every line, instead of a carriage return or both. -/
def plainNewlines : List Char → List Char
  | [] => []
  | '\r' :: '\n' :: rest => '\n' :: plainNewlines rest
  | '\r' :: rest => '\n' :: plainNewlines rest
  | c :: rest => c :: plainNewlines rest

end PromptTree.Text.Utf8
