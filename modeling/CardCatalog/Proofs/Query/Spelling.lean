import CardCatalog.Proofs.Text.LowerCase
import CardCatalog.Query.SearchKey

/-!
# Spellings of search keys

A text spells a search key if its lower-case form is one of the spellings of the key, and then it is
looked up as that key (`lookup_eq_of_mem_spellings`). A text whose lower-case form consists of ASCII
letters consists of ASCII letters itself, but for the Kelvin sign, which is the only other character
that lower-cases to one. Whatever spells a search key is therefore made of the letters of keys
(`is_key_letter_of_mem_spellings`).
-/

namespace CardCatalog

open CardCatalog.Text

namespace Term

/-- A character whose simple lower-case form is an ASCII letter is a letter of keys. -/
theorem is_key_letter_of_lower_char {c : Char} (hdotted : c.toNat ≠ 0x130)
    (h : isAsciiLetter (lowerChar c) = true) : isKeyLetter c = true := by
  rw [lowerChar] at h
  split at h
  · rw [isKeyLetter, is_ascii_letter_of_ascii_lower h]
    rfl
  · rename_i hbeyond
    rw [if_neg (by simpa using hdotted)] at h
    have hascii : (moveBy lowerCaseRuns c).toNat < 128 := by
      rw [is_ascii_letter_iff] at h
      omega
    simp [isKeyLetter, eq_kelvin_of_move_by (by omega) hascii]

/-- Characters whose lower-case forms are ASCII letters are letters of keys. -/
theorem is_key_letter_of_lower_after {before cs : List Char}
    (h : ∀ d ∈ lowerAfter before cs, isAsciiLetter d = true) :
    ∀ c ∈ cs, isKeyLetter c = true := by
  induction cs generalizing before with
  | nil => simp
  | cons c cs ih =>
      rw [lowerAfter, List.forall_mem_append] at h
      obtain ⟨hfirst, hrest⟩ := h
      refine List.forall_mem_cons.2 ⟨?_, ih hrest⟩
      -- The sigmas and the dotted capital have lower-case forms beyond ASCII.
      split at hfirst
      · split at hfirst <;> exact absurd (hfirst _ (List.mem_singleton_self _)) (by decide)
      · split at hfirst
        · exact absurd (hfirst (Char.ofNat 0x307) (by simp)) (by decide)
        · rename_i hdotted
          exact is_key_letter_of_lower_char (by simpa using hdotted)
            (hfirst _ (List.mem_singleton_self _))

/-- A letter of keys, by its code. -/
theorem is_key_letter_iff (c : Char) :
    isKeyLetter c = true ↔ (97 ≤ c.toNat ∧ c.toNat ≤ 122) ∨ (65 ≤ c.toNat ∧ c.toNat ≤ 90) ∨
      c.toNat = 0x212A ∨ c.toNat = 0x17F := by
  simp only [isKeyLetter, Bool.or_eq_true, is_ascii_letter_iff, beq_iff_eq, or_assoc]

end Term

namespace SearchKey

/-- A text that spells a key consists of letters of keys, at least one. -/
theorem is_key_letter_of_mem_spellings {key : SearchKey} {text : String}
    (h : toLower text ∈ key.spellings) :
    text ≠ "" ∧ ∀ c ∈ text.toList, Term.isKeyLetter c = true := by
  have hspellings : ∀ key ∈ all, (key.spellings.all fun spelling =>
      !spelling.toList.isEmpty && spelling.toList.all isAsciiLetter) = true := by decide
  have hspelling := List.all_eq_true.1 (hspellings key (by cases key <;> decide)) _ h
  rw [Bool.and_eq_true, List.all_eq_true] at hspelling
  obtain ⟨hfilled, hletters⟩ := hspelling
  refine ⟨?_, ?_⟩
  · rintro rfl
    exact absurd hfilled (by decide)
  · rw [toLower, String.toList_ofList] at hletters
    exact Term.is_key_letter_of_lower_after hletters

/-- A text that spells a key is looked up as that key. -/
theorem lookup_eq_of_mem_spellings {key : SearchKey} {text : String}
    (h : toLower text ∈ key.spellings) : lookup? text = some key := by
  have hlookup : ∀ key ∈ all, ∀ spelling ∈ key.spellings,
      all.find? (fun other => other.spellings.contains spelling) = some key := by decide
  exact hlookup key (by cases key <;> decide) _ h

end SearchKey

end CardCatalog
