/-!
# Bytes as text

A text is kept in a file as bytes in UTF-8. `decodeBytes` walks through
the bytes one at a time: between characters it takes a leading byte, and
inside a character it waits for the bytes still owed, each within the range
that the leading byte allows for it. The first byte out of place ends the
walk with the reason and the bytes concerned.
-/

namespace CollectionTypes.Text

/-- Why bytes are no text. -/
inductive Utf8Reason where
  | invalidStart
  | invalidContinuation
  | unexpectedEnd
  deriving DecidableEq, Repr

/-- **Bytes that are no text**: the reason, where the bytes concerned
begin, how many they are, and the first of them. -/
structure Utf8Error where
  reason : Utf8Reason
  begun : Nat
  length : Nat
  first : Nat
  deriving DecidableEq, Repr

/-- The wording of a reason. -/
def Utf8Reason.text : Utf8Reason → String
  | invalidStart => "invalid start byte"
  | invalidContinuation => "invalid continuation byte"
  | unexpectedEnd => "unexpected end of data"

/-- A byte in base sixteen, with two digits. -/
def byteText (b : Nat) : String :=
  (if b < 16 then "0x0" else "0x") ++ String.ofList (Nat.toDigits 16 b)

/-- The wording of the error. -/
def Utf8Error.message (e : Utf8Error) : String :=
  "'utf-8' codec can't decode "
    ++ (if e.length = 1 then
          "byte " ++ byteText e.first ++ " in position " ++ toString e.begun
        else
          "bytes in position " ++ toString e.begun ++ "-"
            ++ toString (e.begun + e.length - 1))
    ++ ": " ++ e.reason.text

/-- A character whose bytes are not all read yet. -/
structure OpenChar where
  /-- Its leading byte. -/
  first : Nat
  /-- Where the leading byte stands. -/
  begun : Nat
  /-- How many of its bytes are read. -/
  seen : Nat
  /-- How many are owed behind the next one. -/
  owed : Nat
  /-- The least value of the next byte. -/
  low : Nat
  /-- The greatest value of the next byte. -/
  high : Nat
  /-- The code so far. -/
  code : Nat

/-- What a leading byte of a longer character asks for. -/
def OpenChar.ofLead? (b at_ : Nat) : Option OpenChar :=
  if 0xC2 ≤ b ∧ b ≤ 0xDF then some ⟨b, at_, 1, 0, 0x80, 0xBF, b - 0xC0⟩
  else if 0xE0 ≤ b ∧ b ≤ 0xEF then
    some ⟨b, at_, 1, 1, if b = 0xE0 then 0xA0 else 0x80,
      if b = 0xED then 0x9F else 0xBF, b - 0xE0⟩
  else if 0xF0 ≤ b ∧ b ≤ 0xF4 then
    some ⟨b, at_, 1, 2, if b = 0xF0 then 0x90 else 0x80,
      if b = 0xF4 then 0x8F else 0xBF, b - 0xF0⟩
  else none

/-- The characters of bytes, from a place on, inside a character or
between two. -/
def decodeFrom : Nat → Option OpenChar → List Nat → Except Utf8Error (List Char)
  | _, none, [] => .ok []
  | _, some o, [] => .error ⟨.unexpectedEnd, o.begun, o.seen, o.first⟩
  | pos, none, b :: rest =>
    if b < 0x80 then (decodeFrom (pos + 1) none rest).map (Char.ofNat b :: ·)
    else
      match OpenChar.ofLead? b pos with
      | some o => decodeFrom (pos + 1) (some o) rest
      | none => .error ⟨.invalidStart, pos, 1, b⟩
  | pos, some o, b :: rest =>
    if o.low ≤ b ∧ b ≤ o.high then
      let code := o.code * 64 + (b - 0x80)
      match o.owed with
      | 0 => (decodeFrom (pos + 1) none rest).map (Char.ofNat code :: ·)
      | owed + 1 =>
        decodeFrom (pos + 1)
          (some { o with seen := o.seen + 1, owed, low := 0x80, high := 0xBF, code }) rest
    else .error ⟨.invalidContinuation, o.begun, o.seen, o.first⟩

/-- **The characters of bytes.** -/
def decodeBytes (bytes : List Nat) : Except Utf8Error (List Char) :=
  decodeFrom 0 none bytes

end CollectionTypes.Text
