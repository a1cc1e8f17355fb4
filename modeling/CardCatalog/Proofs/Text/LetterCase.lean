import CardCatalog.Text.LetterCase
import CardCatalog.Text.WhiteSpace

/-!
# Texts up to the case of ASCII letters

A text is put into lower case as far as its ASCII letters go by `lowerAscii`. Texts that agree up to
the case of these letters are those that it makes equal (`eq_ignoring_ascii_case_iff`). What treats
all ASCII letters alike cannot tell a character from its lower-case form (`of_ascii_lower`), and so the
full lower-case form of a text is that of the text in lower case (`to_lower_lower_ascii`).
-/

namespace CardCatalog.Text

/-! ## Characters -/

/-- The letters of ASCII, by their codes. -/
theorem is_ascii_letter_iff (c : Char) :
    isAsciiLetter c = true ↔ (97 ≤ c.toNat ∧ c.toNat ≤ 122) ∨ (65 ≤ c.toNat ∧ c.toNat ≤ 90) := by
  simp only [isAsciiLetter, Bool.or_eq_true, Bool.and_eq_true, decide_eq_true_eq, Char.le_def,
    UInt32.le_iff_toNat_le]
  rfl

/-- The ASCII digits, by their codes. -/
theorem is_ascii_digit_iff (c : Char) : isAsciiDigit c = true ↔ 48 ≤ c.toNat ∧ c.toNat ≤ 57 := by
  simp only [isAsciiDigit, Bool.and_eq_true, decide_eq_true_eq, Char.le_def, UInt32.le_iff_toNat_le]
  rfl

/-- The lower-case form of an ASCII character is a letter only if the character is. -/
theorem is_ascii_letter_of_ascii_lower {c : Char} (h : isAsciiLetter (asciiLower c) = true) :
    isAsciiLetter c = true := by
  rw [asciiLower] at h
  split at h
  · rename_i hcapital
    rw [isAsciiLetter, hcapital, Bool.or_true]
  · exact h

/-- Only letters have a lower-case form of their own, which is a small letter. -/
theorem ascii_lower_cases (c : Char) :
    asciiLower c = c ∨
      isAsciiLetter c = true ∧ 97 ≤ (asciiLower c).toNat ∧ (asciiLower c).toNat ≤ 122 := by
  rw [asciiLower]
  split
  · rename_i hcapital
    refine .inr ⟨by rw [isAsciiLetter, hcapital, Bool.or_true], ?_⟩
    simp only [Bool.and_eq_true, decide_eq_true_eq, Char.le_def, UInt32.le_iff_toNat_le] at hcapital
    obtain ⟨hlow, hhigh⟩ : 65 ≤ c.toNat ∧ c.toNat ≤ 90 := hcapital
    have hcode : (Char.ofNat (c.toNat + 32)).toNat = c.toNat + 32 := by
      have hvalid : (c.toNat + 32).isValidChar := .inl (by omega)
      rw [Char.ofNat, dif_pos hvalid]
      rfl
    omega
  · exact .inl rfl

/-- What treats all ASCII letters alike does not tell a character from its lower-case form. -/
theorem of_ascii_lower {p : Char → Bool} {b : Bool} (h : ∀ c, isAsciiLetter c = true → p c = b)
    (c : Char) : p (asciiLower c) = p c := by
  rcases ascii_lower_cases c with heq | ⟨hletter, hsmall⟩
  · rw [heq]
  · rw [h c hletter, h _ ((is_ascii_letter_iff _).2 (.inl hsmall))]

/-- A character that is no letter is the lower-case form of itself alone. -/
theorem ascii_lower_eq_iff {c d : Char} (hd : ¬ isAsciiLetter d = true) : asciiLower c = d ↔ c = d := by
  rcases ascii_lower_cases c with heq | ⟨hletter, hsmall⟩
  · rw [heq]
  · refine iff_of_false ?_ ?_
    · rintro rfl
      exact hd ((is_ascii_letter_iff _).2 (.inl hsmall))
    · rintro rfl
      exact hd hletter

/-- Comparing with a character that is no letter is not a matter of case. -/
theorem ascii_lower_beq {d : Char} (hd : ¬ isAsciiLetter d = true) (c : Char) :
    (asciiLower c == d) = (c == d) := by
  rw [Bool.eq_iff_iff, beq_iff_eq, beq_iff_eq, ascii_lower_eq_iff hd]

/-- A list without letters holds a character if it holds its lower-case form. -/
theorem ascii_lower_mem_iff {ds : List Char} (hds : ds.any isAsciiLetter = false) (c : Char) :
    asciiLower c ∈ ds ↔ c ∈ ds := by
  rw [List.any_eq_false] at hds
  constructor
  · intro hmem
    exact (ascii_lower_eq_iff (hds _ hmem)).1 rfl ▸ hmem
  · intro hmem
    exact ((ascii_lower_eq_iff (hds c hmem)).2 rfl).symm ▸ hmem

/-- A character that is no letter is among the lower-case forms if it is among the characters. -/
theorem mem_map_ascii_lower_iff {d : Char} (hd : ¬ isAsciiLetter d = true) {cs : List Char} :
    d ∈ cs.map asciiLower ↔ d ∈ cs := by
  simp [List.mem_map, ascii_lower_eq_iff hd]

/-- A small letter stays as it is. -/
theorem ascii_lower_ascii_lower (c : Char) : asciiLower (asciiLower c) = asciiLower c := by
  rcases ascii_lower_cases c with heq | ⟨_, hsmall⟩
  · rw [heq, heq]
  · generalize asciiLower c = d at hsmall ⊢
    rw [asciiLower, if_neg]
    simp only [Bool.and_eq_true, decide_eq_true_eq, Char.le_def, UInt32.le_iff_toNat_le]
    intro hcapital
    obtain ⟨_, hhigh⟩ : 65 ≤ d.toNat ∧ d.toNat ≤ 90 := hcapital
    omega

/-- A character has the simple lower-case form of its ASCII lower-case form. -/
theorem lower_char_ascii_lower (c : Char) : lowerChar (asciiLower c) = lowerChar c := by
  rcases ascii_lower_cases c with heq | ⟨hletter, hsmall⟩
  · rw [heq]
  · rw [is_ascii_letter_iff] at hletter
    rw [lowerChar, lowerChar, if_pos (by omega), if_pos (by omega), ascii_lower_ascii_lower]

/-- A character folds as its ASCII lower-case form does. -/
theorem fold_char_ascii_lower (c : Char) : foldChar (asciiLower c) = foldChar c := by
  rcases ascii_lower_cases c with heq | ⟨hletter, hsmall⟩
  · rw [heq]
  · rw [is_ascii_letter_iff] at hletter
    rw [foldChar, foldChar, if_pos (by omega), if_pos (by omega), ascii_lower_ascii_lower]

/-- A letter stays a letter. -/
theorem is_ascii_letter_ascii_lower (c : Char) : isAsciiLetter (asciiLower c) = isAsciiLetter c :=
  of_ascii_lower (fun _ hletter => hletter) c

/-- A digit is no letter. -/
theorem is_ascii_digit_ascii_lower (c : Char) : isAsciiDigit (asciiLower c) = isAsciiDigit c := by
  refine of_ascii_lower (b := false) (fun c hletter => ?_) c
  rw [is_ascii_letter_iff] at hletter
  rw [Bool.eq_false_iff, ne_eq, is_ascii_digit_iff]
  omega

/-- White space is not a matter of case. -/
theorem is_white_space_ascii_lower (c : Char) : isWhiteSpace (asciiLower c) = isWhiteSpace c := by
  refine of_ascii_lower (b := false) (fun c hletter => ?_) c
  rw [is_ascii_letter_iff] at hletter
  simp only [isWhiteSpace, Bool.or_eq_false_iff, Bool.and_eq_false_iff, decide_eq_false_iff_not,
    beq_eq_false_iff_ne]
  omega

/-- Every letter of ASCII has a case. -/
theorem is_cased_ascii_lower (c : Char) : isCased (asciiLower c) = isCased c := by
  refine of_ascii_lower (b := true) (fun c hletter => ?_) c
  rw [isCased, if_pos, hletter]
  rw [is_ascii_letter_iff] at hletter
  omega

/-- No letter of ASCII is passed over. -/
theorem is_case_ignorable_ascii_lower (c : Char) :
    isCaseIgnorable (asciiLower c) = isCaseIgnorable c := by
  refine of_ascii_lower (b := false) (fun c hletter => ?_) c
  have hne {d : Char} (hd : ¬ isAsciiLetter d = true) : (c == d) = false :=
    beq_eq_false_iff_ne.2 fun heq => hd (heq ▸ hletter)
  have hsmall : c.toNat < 128 := by
    rw [is_ascii_letter_iff] at hletter
    omega
  rw [isCaseIgnorable, if_pos hsmall, hne (by decide), hne (by decide), hne (by decide),
    hne (by decide), hne (by decide)]
  rfl

/-! ## Texts -/

/-- A text with its ASCII letters in lower case. -/
def lowerAscii (s : String) : String :=
  String.ofList (s.toList.map asciiLower)

/-- The characters of a text in lower case. -/
@[simp]
theorem to_list_lower_ascii (s : String) : (lowerAscii s).toList = s.toList.map asciiLower :=
  String.toList_ofList

/-- Texts agree up to the case of ASCII letters exactly if they are the same in lower case. -/
theorem eq_ignoring_ascii_case_iff {s t : String} :
    eqIgnoringAsciiCase s t = true ↔ lowerAscii s = lowerAscii t := by
  rw [eqIgnoringAsciiCase, beq_iff_eq, ← String.toList_inj, to_list_lower_ascii, to_list_lower_ascii]

/-- A text in lower case stays as it is. -/
theorem lower_ascii_lower_ascii (s : String) : lowerAscii (lowerAscii s) = lowerAscii s := by
  rw [← String.toList_inj]
  simp [ascii_lower_ascii_lower]

/-- A text in lower case agrees with what the text agrees with. -/
theorem eq_ignoring_ascii_case_lower_ascii (s t : String) :
    eqIgnoringAsciiCase (lowerAscii s) t = eqIgnoringAsciiCase s t := by
  rw [Bool.eq_iff_iff, eq_ignoring_ascii_case_iff, eq_ignoring_ascii_case_iff, lower_ascii_lower_ascii]

/-- A text without letters is the lower-case form of itself alone. -/
theorem lower_ascii_eq_iff {s word : String} (hword : word.toList.any isAsciiLetter = false) :
    lowerAscii s = word ↔ s = word := by
  rw [← String.toList_inj, ← String.toList_inj, to_list_lower_ascii]
  generalize word.toList = ds at hword
  generalize s.toList = cs
  induction ds generalizing cs with
  | nil => simp
  | cons d ds ih =>
      rw [List.any_cons, Bool.or_eq_false_iff] at hword
      obtain ⟨hd, hds⟩ := hword
      cases cs with
      | nil => simp
      | cons c cs => simp [ascii_lower_eq_iff (Bool.eq_false_iff.1 hd), ih hds]

/-- A text with a character that is no letter is not spelled as a word of letters is. -/
theorem eq_ignoring_ascii_case_of_not_letter {s word : String} {c : Char} (hc : c ∈ s.toList)
    (hletter : ¬ isAsciiLetter c = true)
    (hword : (word.toList.map asciiLower).all isAsciiLetter = true) :
    eqIgnoringAsciiCase s word = false := by
  rw [eqIgnoringAsciiCase, beq_eq_false_iff_ne]
  intro heq
  have hlower : asciiLower c ∈ word.toList.map asciiLower := heq ▸ List.mem_map_of_mem hc
  exact hletter (is_ascii_letter_of_ascii_lower (List.all_eq_true.1 hword _ hlower))

/-- Whether a cased letter is met is not a matter of case. -/
theorem meets_cased_map_ascii_lower (cs : List Char) :
    meetsCased (cs.map asciiLower) = meetsCased cs := by
  have hskip : isCaseIgnorable ∘ asciiLower = isCaseIgnorable :=
    funext is_case_ignorable_ascii_lower
  rw [meetsCased, List.dropWhile_map, hskip, meetsCased]
  cases cs.dropWhile isCaseIgnorable with
  | nil => rfl
  | cons c _ => exact is_cased_ascii_lower c

/-- Lower-casing goes on alike after texts and before texts in lower case. -/
theorem lower_after_map_ascii_lower (before cs : List Char) :
    lowerAfter (before.map asciiLower) (cs.map asciiLower) = lowerAfter before cs := by
  induction cs generalizing before with
  | nil => rfl
  | cons c cs ih =>
      have hsigma : (asciiLower c == 'Σ') = (c == 'Σ') := ascii_lower_beq (by decide) c
      have hdotted : ((asciiLower c).toNat == 0x130) = (c.toNat == 0x130) := by
        refine of_ascii_lower (p := fun c => c.toNat == 0x130) (b := false) (fun c hletter => ?_) c
        rw [is_ascii_letter_iff] at hletter
        rw [beq_eq_false_iff_ne]
        omega
      have hrest := ih (c :: before)
      rw [List.map_cons] at hrest
      rw [List.map_cons, lowerAfter, lowerAfter, hsigma, hdotted, lower_char_ascii_lower,
        meets_cased_map_ascii_lower, meets_cased_map_ascii_lower, hrest]

/-- The full lower-case form of a text is that of the text in lower case. -/
theorem to_lower_lower_ascii (s : String) : toLower (lowerAscii s) = toLower s := by
  rw [toLower, to_list_lower_ascii, toLower]
  exact congrArg String.ofList (lower_after_map_ascii_lower [] s.toList)

end CardCatalog.Text
