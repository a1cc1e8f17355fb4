import CardCatalog.Card.Id

/-!
# Ids are read back from their texts

The hyphenated text of an id is read back as the id, so different ids have different texts.
-/

namespace CardCatalog.CardId

open CardCatalog.Text

/-- The id whose digits are all the same. -/
def repeated (digit : Nat) : CardId :=
  ⟨List.replicate 32 (lastHexDigit digit), List.length_replicate⟩

/-- Digits are read back one by one. -/
theorem map_m_hex_digit_value (digits : List (Fin 16)) :
    (digits.map hexDigit).mapM hexDigitValue = some digits := by
  induction digits with
  | nil => rfl
  | cons digit digits ih =>
      rw [List.map_cons, List.mapM_cons, hex_digit_value_hex_digit, ih]
      rfl

/-- Digits between hyphens are read as they are without hyphens. -/
theorem of_hyphenated_groups {a b c d e : List Char} (ha : a.length = 8) (hb : b.length = 4)
    (hc : c.length = 4) (hd : d.length = 4) :
    ofHyphenated? (a ++ '-' :: (b ++ '-' :: (c ++ '-' :: (d ++ '-' :: e)))) =
      ofPlain? (a ++ (b ++ (c ++ (d ++ e)))) := by
  simp [ofHyphenated?, List.getElem?_append, List.drop_append,
    List.drop_of_length_le, ha, hb, hc, hd]

/-- An id is read back from its text. -/
theorem parse_text (id : CardId) : parse? id.text = some id := by
  have hlength : (id.digits.map hexDigit).length = 32 := by
    rw [List.length_map, id.length_digits]
  have hplain : ofPlain? (id.digits.map hexDigit) = some id := by
    rw [ofPlain?, map_m_hex_digit_value]
    exact dif_pos id.length_digits
  unfold parse? text
  generalize id.digits.map hexDigit = cs at hlength hplain ⊢
  have hgroups : cs.take 8 ++ ((cs.drop 8).take 4 ++ ((cs.drop 12).take 4 ++
      ((cs.drop 16).take 4 ++ cs.drop 20))) = cs := by
    have hjoin (n : Nat) : (cs.drop n).take 4 ++ cs.drop (n + 4) = cs.drop n := by
      rw [← List.drop_drop]
      exact List.take_append_drop 4 (cs.drop n)
    rw [hjoin 16, hjoin 12, hjoin 8, List.take_append_drop]
  rw [String.toList_ofList, if_neg (by simp [hlength]), if_pos (by simp [hlength]),
    of_hyphenated_groups (by simp [hlength]) (by simp [hlength]) (by simp [hlength])
      (by simp [hlength]), hgroups, hplain]

/-- Different ids have different texts. -/
theorem text_injective {id other : CardId} (h : id.text = other.text) : id = other := by
  have hparse := parse_text id
  rw [h, parse_text other] at hparse
  exact (Option.some.inj hparse).symm

end CardCatalog.CardId
