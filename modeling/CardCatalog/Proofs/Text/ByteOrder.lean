import Mathlib.Data.String.Basic
import Mathlib.Order.Monotone.Basic

/-!
# The order of texts by their bytes

Texts are compared character by character, which is the same as comparing their encodings in UTF-8
byte by byte (`bytes_le_bytes_iff`): the encoding of a smaller character is smaller at the first
byte where it differs from that of a greater one, and no encoding begins with another.
-/

namespace CardCatalog.Text

/-- The bytes of a character in UTF-8, as numbers. -/
def charBytes (c : Char) : List Nat :=
  (String.utf8EncodeChar c).map UInt8.toNat

/-- The bytes of a text in UTF-8, as numbers. -/
def bytes (s : String) : List Nat :=
  s.toUTF8.data.toList.map UInt8.toNat

/-- A text is encoded character by character. -/
theorem bytes_eq_flat_map (s : String) : bytes s = s.toList.flatMap charBytes := by
  have hencoded : s.toUTF8 = s.toList.utf8Encode := by
    conv => lhs; rw [← s.ofList_toList]
    exact String.toByteArray_ofList
  rw [bytes, hencoded, List.utf8Encode, List.toList_data_toByteArray, List.map_flatMap]
  rfl

/-- Code points are below the end of the last plane. -/
theorem code_point_lt (c : Char) : c.val.toNat < 0x110000 := by
  rcases c.valid with h | h
  · exact Nat.lt_trans h (by decide)
  · exact h.2

/-- The bytes of a character hold the digits of its code point in base 64, after a first byte that
tells how many there are. -/
theorem char_bytes_eq (c : Char) :
    charBytes c =
      if c.val.toNat ≤ 0x7F then [c.val.toNat]
      else if c.val.toNat ≤ 0x7FF then [192 + c.val.toNat / 64, 128 + c.val.toNat % 64]
      else if c.val.toNat ≤ 0xFFFF then
        [224 + c.val.toNat / 64 / 64, 128 + c.val.toNat / 64 % 64, 128 + c.val.toNat % 64]
      else
        [240 + c.val.toNat / 64 / 64 / 64, 128 + c.val.toNat / 64 / 64 % 64,
         128 + c.val.toNat / 64 % 64, 128 + c.val.toNat % 64] := by
  have hmax := code_point_lt c
  rw [charBytes, String.utf8EncodeChar]
  generalize c.val.toNat = v at hmax ⊢
  split_ifs <;>
    simp only [List.map_cons, List.map_nil, UInt8.toNat_ofNat', List.cons.injEq, and_true] <;>
    omega

/-- The bytes of a smaller character come first, whatever follows. -/
theorem char_bytes_append_lt {c d : Char} (h : c < d) (rest other : List Nat) :
    charBytes c ++ rest < charBytes d ++ other := by
  have hlt : c.val.toNat < d.val.toNat := h
  have hmax := code_point_lt d
  rw [char_bytes_eq, char_bytes_eq]
  generalize c.val.toNat = v at hlt ⊢
  generalize d.val.toNat = w at hlt hmax ⊢
  -- One case for each pair of lengths: the digits decide, or the first bytes where lengths differ.
  split_ifs <;> simp only [List.cons_append, List.nil_append, List.cons_lt_cons_iff] <;> omega

/-- A smaller list of characters has smaller bytes. -/
theorem flat_map_char_bytes_lt {cs ds : List Char} (h : List.Lex (· < ·) cs ds) :
    cs.flatMap charBytes < ds.flatMap charBytes := by
  induction h with
  | @nil d ds =>
      have hfilled : charBytes d ≠ [] := by simp [charBytes]
      obtain ⟨b, bs, hbytes⟩ := List.exists_cons_of_ne_nil hfilled
      rw [List.flatMap_nil, List.flatMap_cons, hbytes, List.cons_append]
      exact List.Lex.nil
  | rel hlt =>
      rw [List.flatMap_cons, List.flatMap_cons]
      exact char_bytes_append_lt hlt _ _
  | cons _ ih =>
      rw [List.flatMap_cons, List.flatMap_cons]
      exact List.append_left_lt ih

/-- Texts are in the order of their bytes. -/
theorem bytes_le_bytes_iff (s t : String) : bytes s ≤ bytes t ↔ s ≤ t := by
  have hmono : StrictMono fun cs : List Char => cs.flatMap charBytes :=
    fun _ _ h => flat_map_char_bytes_lt h
  rw [bytes_eq_flat_map, bytes_eq_flat_map, String.le_iff_toList_le]
  exact hmono.le_iff_le

end CardCatalog.Text
