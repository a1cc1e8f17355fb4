import CardCatalog.Proofs.Number.Digits
import CardCatalog.Proofs.Text.Scan
import CardCatalog.Toml.Reader
import Mathlib.Tactic.SplitIfs

/-!
# TOML texts and integers read back

A text is read back from between the quotes that it is written in, whatever its characters are
(`read_any_text_write`), and a natural number from its decimal digits (`read_number_digits`), if a line
break stands behind them.
-/

namespace CardCatalog.Toml

open CardCatalog.Text CardCatalog.Number

/-! ## Texts -/

/-- The two last digits of a code below 256 stand for its character. -/
theorem char_of_code {c : Char} (h : c.toNat < 256) :
    charOfCode? ['0', '0', hexDigit (lastHexDigit (c.toNat / 16)), hexDigit (lastHexDigit c.toNat)] =
      some c := by
  have hzero : hexDigitValue '0' = some 0 := by decide
  have hvalue : c.toNat / 16 % 16 * 16 + c.toNat % 16 = c.toNat := by omega
  have hvalid : c.toNat.isValidChar := c.valid
  simp [charOfCode?, hzero, hex_digit_value_hex_digit, lastHexDigit, hvalue, hvalid, Char.ofNat_toNat]

/-- The written form of a character is read as the character. -/
theorem read_quoted_chars_escape (c : Char) (fuel : Nat) (rest : List Char) :
    readQuotedChars (fuel + 1) (escapeChar c ++ rest) = withChar c (readQuotedChars fuel rest) := by
  rw [escapeChar]
  split_ifs with hspecial hcontrol
  · rw [Bool.or_eq_true, beq_iff_eq, beq_iff_eq] at hspecial
    rcases hspecial with rfl | rfl <;> simp [readQuotedChars, readEscape]
  · have hcode : c.toNat < 256 := by
      simp only [Bool.or_eq_true, decide_eq_true_eq, beq_iff_eq] at hcontrol
      omega
    have hread := char_of_code hcode
    simp [readQuotedChars, readEscape, hread]
  · simp only [Bool.or_eq_true, decide_eq_true_eq, beq_iff_eq, not_or] at hspecial hcontrol
    have hprintable : isPrintable c = true := by
      rw [isPrintable]
      simp only [Bool.or_eq_true, Bool.and_eq_true, decide_eq_true_eq, bne_iff_ne]
      exact .inr ⟨by omega, hcontrol.2⟩
    simp [readQuotedChars, hspecial, hprintable]

/-- The written form of a text is read up to the quote that closes it. -/
theorem read_quoted_chars_escaped (cs : List Char) {fuel : Nat} (hfuel : cs.length < fuel)
    (rest : List Char) :
    readQuotedChars fuel (cs.flatMap escapeChar ++ '\x22' :: rest) = some (cs, rest) := by
  induction cs generalizing fuel with
  | nil =>
      obtain ⟨fuel, rfl⟩ := Nat.exists_eq_add_of_lt hfuel
      simp [readQuotedChars]
  | cons c cs ih =>
      obtain ⟨fuel, rfl⟩ := Nat.exists_eq_add_one_of_ne_zero (Nat.ne_zero_of_lt hfuel)
      rw [List.flatMap_cons, List.append_assoc, read_quoted_chars_escape,
        ih (Nat.lt_of_succ_lt_succ hfuel)]
      rfl

/-- The written form of a character does not start with a quote. -/
theorem head_escape_char (c : Char) : ∃ d ds, escapeChar c = d :: ds ∧ d ≠ '\x22' := by
  rw [escapeChar]
  split_ifs with hspecial hcontrol
  · exact ⟨_, _, rfl, by decide⟩
  · exact ⟨_, _, rfl, by decide⟩
  · rw [Bool.or_eq_true, beq_iff_eq, beq_iff_eq, not_or] at hspecial
    exact ⟨c, [], rfl, hspecial.1⟩

/-- A text that is written is not mistaken for the start of one on several lines. -/
theorem write_ne_three_quotes (cs : List Char) {rest : List Char} (hrest : rest.head? ≠ some '\x22')
    (tail : List Char) :
    '\x22' :: (cs.flatMap escapeChar ++ '\x22' :: rest) ≠ '\x22' :: '\x22' :: '\x22' :: tail := by
  intro h
  have htail := (List.cons.inj h).2
  cases cs with
  | nil =>
      have hquote := (List.cons.inj htail).2
      rw [hquote] at hrest
      exact hrest rfl
  | cons c cs =>
      obtain ⟨d, ds, hescape, hd⟩ := head_escape_char c
      rw [List.flatMap_cons, hescape, List.cons_append] at htail
      exact hd (List.cons.inj htail).1

/-- A text that is written starts with its opening quote. -/
theorem write_text_append (s : String) (rest : List Char) :
    (writeText s).toList ++ rest = '\x22' :: (s.toList.flatMap escapeChar ++ '\x22' :: rest) := by
  rw [writeText, String.toList_ofList]
  simp

/-- A text is read back, unless a further quote stands behind it. -/
theorem read_any_text_write (s : String) {rest : List Char} (hrest : rest.head? ≠ some '\x22') :
    readAnyText ((writeText s).toList ++ rest) = some (s, rest) := by
  have hfuel : s.toList.length < (s.toList.flatMap escapeChar ++ '\x22' :: rest).length + 1 := by
    have hfilled (c : Char) : escapeChar c ≠ [] := by
      obtain ⟨d, ds, hescape, _⟩ := head_escape_char c
      simp [hescape]
    have hle := length_le_length_flat_map hfilled s.toList
    rw [List.length_append]
    omega
  rw [write_text_append]
  unfold readAnyText
  split
  · rename_i h
    exact absurd h (write_ne_three_quotes _ hrest _)
  · rename_i h
    exact absurd (List.cons.inj h).1 (by decide)
  · rw [readText, read_quoted_chars_escaped _ hfuel]
    simp [asString]

/-! ## Natural numbers -/

/-- A word is not read where another character stands. -/
theorem read_word_eq_none {word : String} {cs : List Char} (hword : word.toList ≠ [])
    (h : cs.head? ≠ word.toList.head?) : readWord word cs = none := by
  refine if_neg fun htake => h ?_
  have hlength : word.length ≠ 0 := by
    rw [← String.length_toList]
    exact fun hzero => hword (List.length_eq_zero_iff.1 hzero)
  rw [← htake, List.head?_take, if_neg hlength]

/-- Digits on the rest of a line. -/
def DigitsLine (cs : List Char) : Prop :=
  ∃ digits rest, (∀ c ∈ digits, isAsciiDigit c = true) ∧ cs = digits ++ '\n' :: rest

/-- The rest of a line of digits starts with a digit or a line break. -/
theorem DigitsLine.head_ne {cs : List Char} (h : DigitsLine cs) {c : Char} (hdigit : isAsciiDigit c = false)
    (hbreak : c ≠ '\n') : cs.head? ≠ some c := by
  obtain ⟨digits, rest, hdigits, rfl⟩ := h
  cases digits with
  | nil => exact fun hhead => hbreak (Option.some.inj hhead).symm
  | cons d digits =>
      intro hhead
      obtain rfl : d = c := Option.some.inj hhead
      rw [hdigits d List.mem_cons_self] at hdigit
      cases hdigit

/-- A field of digits leaves the rest of a line of digits. -/
theorem DigitsLine.read_field {cs rest : List Char} (h : DigitsLine cs) {width least greatest value : Nat}
    (hread : readField width least greatest cs = some (value, rest)) : DigitsLine rest := by
  obtain ⟨digits, line, hdigits, rfl⟩ := h
  obtain ⟨hfield, hrest⟩ := Option.ite_none_right_eq_some.1 hread
  simp only [Bool.and_eq_true, decide_eq_true_eq, List.all_eq_true] at hfield
  have hall := hfield.1.1.2
  have hwidth : width ≤ digits.length := by
    by_contra hbeyond
    obtain ⟨more, hmore⟩ := Nat.exists_eq_add_one_of_ne_zero (by omega : width - digits.length ≠ 0)
    have hbreak : '\n' ∈ (digits ++ '\n' :: line).take width := by
      rw [List.take_append, hmore, List.take_succ_cons]
      exact List.mem_append_right _ List.mem_cons_self
    exact absurd (hall _ hbreak) (by decide)
  obtain rfl : (digits ++ '\n' :: line).drop width = rest := (Prod.mk.inj (Option.some.inj hrest)).2
  refine ⟨digits.drop width, line, fun c hc => hdigits c (List.mem_of_mem_drop hc), ?_⟩
  rw [List.drop_append_of_le_length hwidth]

/-- Digits are no date. -/
theorem DigitsLine.read_date {cs : List Char} (h : DigitsLine cs) : readDate cs = none := by
  rw [readDate]
  cases hyear : readField 4 0 9999 cs with
  | none => rfl
  | some year =>
      have hdash : readWord "-" year.2 = none :=
        read_word_eq_none (by decide) ((h.read_field hyear).head_ne (by decide) (by decide))
      simp [hdash]

/-- Digits are no time of day. -/
theorem DigitsLine.read_time {cs : List Char} (h : DigitsLine cs) : readTime cs = none := by
  rw [readTime]
  cases hhour : readField 2 0 23 cs with
  | none => rfl
  | some hour =>
      have hcolon : readWord ":" hour.2 = none :=
        read_word_eq_none (by decide) ((h.read_field hhour).head_ne (by decide) (by decide))
      simp [hcolon]

/-- Digits have no sign. -/
theorem DigitsLine.read_sign {cs : List Char} (h : DigitsLine cs) : readSign cs = (false, cs) := by
  unfold readSign
  split
  · exact absurd rfl (h.head_ne (c := '-') (by decide) (by decide))
  · exact absurd rfl (h.head_ne (c := '+') (by decide) (by decide))
  · rfl

/-- Digits are no infinity. -/
theorem DigitsLine.read_special {cs : List Char} (h : DigitsLine cs) : readSpecial cs = none := by
  have hinf : readWord "inf" cs = none :=
    read_word_eq_none (by decide) (h.head_ne (by decide) (by decide))
  have hnan : readWord "nan" cs = none :=
    read_word_eq_none (by decide) (h.head_ne (by decide) (by decide))
  rw [readSpecial, h.read_sign]
  simp [hinf, hnan]

/-- Digits are read up to the end of the line. -/
theorem read_more_digits_line {digits : List Char} (hdigits : ∀ c ∈ digits, isAsciiDigit c = true)
    (rest : List Char) :
    readMoreDigits isAsciiDigit (digits ++ '\n' :: rest) = (digits, '\n' :: rest) := by
  induction digits with
  | nil =>
    rw [List.nil_append]
    unfold readMoreDigits
    rfl
  | cons digit digits ih =>
      obtain ⟨hdigit, hrest⟩ := List.forall_mem_cons.1 hdigits
      have hunderscore : digit ≠ '_' := by
        rintro rfl
        cases hdigit
      simp [readMoreDigits, hunderscore, hdigit, ih hrest]

/-- The decimal digits of a number are read as a whole part. -/
theorem read_whole_digits (n : Nat) (rest : List Char) :
    readWhole (natDigits n ++ '\n' :: rest) = some (natDigits n, '\n' :: rest) := by
  obtain ⟨digit, digits, hcons⟩ := List.exists_cons_of_ne_nil (nat_digits_ne_nil n)
  have hdigits := is_ascii_digit_of_mem_nat_digits (n := n)
  have hlength := @length_nat_digits_of_head n
  rw [hcons] at hdigits hlength ⊢
  obtain ⟨hdigit, hmore⟩ := List.forall_mem_cons.1 hdigits
  rw [List.cons_append]
  unfold readWhole
  split
  · rename_i h
    obtain ⟨rfl, rfl⟩ := List.cons.inj h
    obtain rfl : digits = [] := by simpa using hlength rfl
    rfl
  · rw [readDigits, if_pos hdigit, read_more_digits_line hmore]

/-- Digits of a number are no real number. -/
theorem read_real_digits (n : Nat) (rest : List Char) : readReal (natDigits n ++ '\n' :: rest) = none := by
  have hline : DigitsLine (natDigits n ++ '\n' :: rest) :=
    ⟨natDigits n, rest, is_ascii_digit_of_mem_nat_digits, rfl⟩
  have hfraction : readFraction ('\n' :: rest) = some ([], '\n' :: rest) := rfl
  have hexponent : readExponent ('\n' :: rest) = some (0, '\n' :: rest) := rfl
  rw [readReal, hline.read_sign]
  simp [read_whole_digits, hfraction, hexponent]

/-- A zero that stands first is the only digit, so it opens no other base. -/
theorem digits_line_ne (n : Nat) {c : Char} (hc : c ≠ '\n') (rest tail : List Char) :
    natDigits n ++ '\n' :: rest ≠ '0' :: c :: tail := by
  intro hzero
  obtain ⟨digit, digits, hcons⟩ := List.exists_cons_of_ne_nil (nat_digits_ne_nil n)
  have hlength := @length_nat_digits_of_head n
  rw [hcons] at hlength hzero
  obtain ⟨rfl, htail⟩ := List.cons.inj hzero
  obtain rfl : digits = [] := by simpa using hlength rfl
  exact hc (List.cons.inj htail).1.symm

variable {n : Nat} (h : n ≤ 0x7FFFFFFFFFFFFFFF) (rest : List Char)

include h

/-- A 64-bit number is read back as an integer. -/
theorem read_integer_digits :
    readInteger (natDigits n ++ '\n' :: rest) = some (.integer n, '\n' :: rest) := by
  have hline : DigitsLine (natDigits n ++ '\n' :: rest) :=
    ⟨natDigits n, rest, is_ascii_digit_of_mem_nat_digits, rfl⟩
  have hmin : Int64.minValue.toInt = -0x8000000000000000 := rfl
  have hmax : Int64.maxValue.toInt = 0x7FFFFFFFFFFFFFFF := rfl
  have hfits : isInt64 n = true := by
    rw [isInt64, hmin, hmax, Bool.and_eq_true, decide_eq_true_eq, decide_eq_true_eq]
    omega
  unfold readInteger
  split
  · rename_i hzero
    exact absurd hzero (digits_line_ne n (by decide) rest _)
  · rename_i hzero
    exact absurd hzero (digits_line_ne n (by decide) rest _)
  · rename_i hzero
    exact absurd hzero (digits_line_ne n (by decide) rest _)
  · rw [hline.read_sign]
    simp [read_whole_digits, nat_of_digits_nat_digits, integer?, hfits]

/-- A 64-bit number is read back from its decimal digits. -/
theorem read_number_digits :
    readNumber (natDigits n ++ '\n' :: rest) = some (.integer n, '\n' :: rest) := by
  have hline : DigitsLine (natDigits n ++ '\n' :: rest) :=
    ⟨natDigits n, rest, is_ascii_digit_of_mem_nat_digits, rfl⟩
  have hmoment : readMoment (natDigits n ++ '\n' :: rest) = none := by
    rw [readMoment, hline.read_date, hline.read_time]
    rfl
  simp only [readNumber, hmoment, read_real_digits, hline.read_special, read_integer_digits h rest]
  rfl

end CardCatalog.Toml
