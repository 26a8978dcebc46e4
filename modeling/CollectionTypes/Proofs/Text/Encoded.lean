import Mathlib.Tactic.SplitIfs
import CollectionTypes.Source.Files

/-!
# Text as bytes

The bytes of a text in UTF-8 are those of its characters one behind the other
(`Text.utf8_eq_flatMap`), and a character comes back off the front of its own bytes whatever
is behind them (`Text.decodeFrom_charBytes`). So a text comes back whole
(`Text.decodeBytes_utf8`), and a file that holds it is read the same whether it is kept as a
text or as its bytes (`Content.read_of_utf8`).
-/

namespace CollectionTypes

namespace Text

/-- **The bytes of a text** in UTF-8. -/
def utf8 (s : String) : List Nat :=
  s.toUTF8.data.toList.map UInt8.toNat

/-- The bytes of a character. -/
def charBytes (c : Char) : List Nat :=
  (String.utf8EncodeChar c).map UInt8.toNat

theorem utf8_eq_flatMap (s : String) : utf8 s = s.toList.flatMap charBytes := by
  unfold utf8 charBytes
  rw [String.toUTF8_eq_toByteArray, ← String.utf8Encode_toList, List.utf8Encode,
    List.data_toByteArray, List.toList_toArray, List.map_flatMap]

/-- Which codes are those of characters. -/
theorem toNat_valid (c : Char) : c.toNat < 0xD800 ∨ 0xDFFF < c.toNat ∧ c.toNat < 0x110000 :=
  c.valid

/-- **The bytes of a character** are its code, cut into groups of six bits; the first byte
tells how many there are. -/
theorem charBytes_eq (c : Char) :
    charBytes c = if c.toNat ≤ 0x7F then [c.toNat]
      else if c.toNat ≤ 0x7FF then [0xC0 + c.toNat / 64, 0x80 + c.toNat % 64]
      else if c.toNat ≤ 0xFFFF then
        [0xE0 + c.toNat / 4096, 0x80 + c.toNat / 64 % 64, 0x80 + c.toNat % 64]
      else [0xF0 + c.toNat / 262144, 0x80 + c.toNat / 4096 % 64, 0x80 + c.toNat / 64 % 64,
        0x80 + c.toNat % 64] := by
  have hvalid := toNat_valid c
  have hcode : c.val.toNat = c.toNat := rfl
  unfold charBytes String.utf8EncodeChar
  simp only [hcode]
  split_ifs <;> simp [UInt8.toNat_ofNat'] <;> omega

/-! ## Characters come back -/

section Decoding

variable {pos b : Nat} {o : OpenChar} {rest : List Nat}

/-- A leading byte opens a character. -/
theorem decodeFrom_lead (hb : 0x80 ≤ b) (ho : OpenChar.ofLead? b pos = some o) :
    decodeFrom pos none (b :: rest) = decodeFrom (pos + 1) (some o) rest := by
  rw [decodeFrom, if_neg (Nat.not_lt.mpr hb), ho]

/-- A byte that is owed is taken. -/
theorem decodeFrom_owed {owed : Nat} (hb : o.low ≤ b ∧ b ≤ o.high) (ho : o.owed = owed + 1) :
    decodeFrom pos (some o) (b :: rest) = decodeFrom (pos + 1)
      (some { o with
        seen := o.seen + 1, owed, low := 0x80, high := 0xBF, code := o.code * 64 + (b - 0x80) })
      rest := by
  rw [decodeFrom, if_pos hb, ho]

/-- The last byte that is owed closes the character. -/
theorem decodeFrom_last (hb : o.low ≤ b ∧ b ≤ o.high) (ho : o.owed = 0) :
    decodeFrom pos (some o) (b :: rest)
      = (decodeFrom (pos + 1) none rest).map (Char.ofNat (o.code * 64 + (b - 0x80)) :: ·) := by
  rw [decodeFrom, if_pos hb, ho]

/-- **A character comes back** off the front of its bytes. -/
theorem decodeFrom_charBytes (c : Char) (pos : Nat) (rest : List Nat) :
    decodeFrom pos none (charBytes c ++ rest)
      = (decodeFrom (pos + (charBytes c).length) none rest).map (c :: ·) := by
  have hvalid := toNat_valid c
  rw [charBytes_eq]
  split_ifs with hone htwo hthree
  · rw [List.singleton_append, decodeFrom, if_pos (by omega), Char.ofNat_toNat]
    rfl
  · have hlead : OpenChar.ofLead? (0xC0 + c.toNat / 64) pos
        = some ⟨0xC0 + c.toNat / 64, pos, 1, 0, 0x80, 0xBF, c.toNat / 64⟩ := by
      rw [OpenChar.ofLead?, if_pos (by omega), Nat.add_sub_cancel_left]
    have hcode : c.toNat / 64 * 64 + (0x80 + c.toNat % 64 - 0x80) = c.toNat := by omega
    simp only [List.cons_append, List.nil_append]
    rw [decodeFrom_lead (by omega) hlead, decodeFrom_last (by dsimp only; omega) rfl]
    dsimp only
    rw [hcode, Char.ofNat_toNat]
    rfl
  · have hlead : OpenChar.ofLead? (0xE0 + c.toNat / 4096) pos
        = some ⟨0xE0 + c.toNat / 4096, pos, 1, 1, if 0xE0 + c.toNat / 4096 = 0xE0 then 0xA0 else 0x80,
            if 0xE0 + c.toNat / 4096 = 0xED then 0x9F else 0xBF, c.toNat / 4096⟩ := by
      rw [OpenChar.ofLead?, if_neg (by omega), if_pos (by omega), Nat.add_sub_cancel_left]
    have hcode : (c.toNat / 4096 * 64 + (0x80 + c.toNat / 64 % 64 - 0x80)) * 64
        + (0x80 + c.toNat % 64 - 0x80) = c.toNat := by omega
    simp only [List.cons_append, List.nil_append]
    rw [decodeFrom_lead (by omega) hlead,
      decodeFrom_owed (by dsimp only; split_ifs <;> omega) rfl,
      decodeFrom_last (by dsimp only; omega) rfl]
    dsimp only
    rw [hcode, Char.ofNat_toNat]
    rfl
  · have hlead : OpenChar.ofLead? (0xF0 + c.toNat / 262144) pos
        = some ⟨0xF0 + c.toNat / 262144, pos, 1, 2,
            if 0xF0 + c.toNat / 262144 = 0xF0 then 0x90 else 0x80,
            if 0xF0 + c.toNat / 262144 = 0xF4 then 0x8F else 0xBF, c.toNat / 262144⟩ := by
      rw [OpenChar.ofLead?, if_neg (by omega), if_neg (by omega), if_pos (by omega),
        Nat.add_sub_cancel_left]
    have hcode : ((c.toNat / 262144 * 64 + (0x80 + c.toNat / 4096 % 64 - 0x80)) * 64
        + (0x80 + c.toNat / 64 % 64 - 0x80)) * 64 + (0x80 + c.toNat % 64 - 0x80) = c.toNat := by
      omega
    simp only [List.cons_append, List.nil_append]
    rw [decodeFrom_lead (by omega) hlead,
      decodeFrom_owed (by dsimp only; split_ifs <;> omega) rfl,
      decodeFrom_owed (by dsimp only; omega) rfl,
      decodeFrom_last (by dsimp only; omega) rfl]
    dsimp only
    rw [hcode, Char.ofNat_toNat]
    rfl

theorem decodeFrom_flatMap (cs : List Char) (pos : Nat) :
    decodeFrom pos none (cs.flatMap charBytes) = .ok cs := by
  induction cs generalizing pos with
  | nil => rfl
  | cons c cs ih =>
    rw [List.flatMap_cons, decodeFrom_charBytes, ih]
    rfl

/-- **A text comes back** from its bytes. -/
theorem decodeBytes_utf8 (s : String) : decodeBytes (utf8 s) = .ok s.toList := by
  rw [utf8_eq_flatMap]
  exact decodeFrom_flatMap s.toList 0

end Decoding

end Text

/-! ## Files -/

/-- **The bytes of a file.** -/
def Content.utf8 : Content → List Nat
  | text s => Text.utf8 s
  | bytes bs => bs

/-- **A file that holds a text in UTF-8** is read as the text, its line ends unified. -/
theorem Content.read_of_utf8 {c : Content} {s : String} (h : c.utf8 = Text.utf8 s) :
    c.read = .ok (Text.unifyLineEnds s.toList) := by
  have hread : c.read = (Text.decodeBytes c.utf8).map Text.unifyLineEnds := by
    cases c with
    | text s => rw [utf8, Text.decodeBytes_utf8]; rfl
    | bytes bs => rfl
  rw [hread, h, Text.decodeBytes_utf8]
  rfl

end CollectionTypes
