import CardCatalog.Proofs.Json.ObjectText
import CardCatalog.Proofs.Number.Digits
import CardCatalog.Proofs.Number.Division
import CardCatalog.Proofs.Text.Scan

/-!
# Whole numbers in JSON text

An integer is written in JSON text by its decimal text, or by that text with a point and zeros behind
it. `WholeLiteral` is such a spelling. It is read as one numeral wherever the text goes on with
something that ends a value (`read_value_chars`). Without zeros its value is the integer
(`value_of_no_zeros`). With zeros it is a binary64 number that has been rounded twice, of as many
digits as fit 64 bits (`exists_value_of_zeros`).
-/

namespace CardCatalog

open CardCatalog.Text CardCatalog.Number

/-! ## Digits that fit 64 bits -/

namespace Numeral

variable {significand taken : Nat}

/-- Appending digits makes a number no smaller. -/
theorem le_of_digit_chars (digits : List Char) (n : Nat) : n ≤ Nat.ofDigitChars 10 digits n := by
  induction digits generalizing n with
  | nil => exact le_rfl
  | cons digit digits ih =>
      rw [Nat.ofDigitChars_cons]
      exact le_trans (by omega) (ih _)

/-- Digits are appended as long as all of them fit. -/
theorem append_digits_of_le {digits : List Char}
    (h : Nat.ofDigitChars 10 digits significand ≤ maxSignificand) :
    appendDigits significand taken digits =
      (Nat.ofDigitChars 10 digits significand, taken + digits.length) := by
  induction digits generalizing significand taken with
  | nil => rfl
  | cons digit digits ih =>
      rw [Nat.ofDigitChars_cons, mul_comm] at h ⊢
      rw [appendDigits, if_pos ((le_of_digit_chars digits _).trans h), ih h, List.length_cons]
      simp only [Prod.mk.injEq, true_and]
      omega

/-- The decimal digits of a number that fits are appended to nothing as that number. -/
theorem append_digits_nat_digits {n : Nat} (h : n ≤ maxSignificand) :
    appendDigits 0 0 (natDigits n) = (n, (natDigits n).length) := by
  have hvalue : Nat.ofDigitChars 10 (natDigits n) 0 = n := nat_of_digits_nat_digits n
  have happend : appendDigits 0 0 (natDigits n) = _ := append_digits_of_le (by rwa [hvalue])
  rwa [hvalue, Nat.zero_add] at happend

/-- The number of zeros behind a whole number that fit 64 bits together with it. -/
def keptZeros (whole zeros : Nat) : Nat :=
  Nat.findGreatest (fun kept => whole * 10 ^ kept ≤ maxSignificand) zeros

/-- The kept zeros fit if the whole number does. -/
theorem kept_zeros_fit {whole : Nat} (h : whole ≤ maxSignificand) (zeros : Nat) :
    whole * 10 ^ keptZeros whole zeros ≤ maxSignificand :=
  Nat.findGreatest_spec (P := fun kept => whole * 10 ^ kept ≤ maxSignificand) (Nat.zero_le zeros)
    (by simpa using h)

/-- A zero is kept if there is one and it fits. -/
theorem kept_zeros_pos {whole zeros : Nat} (h : whole * 10 ≤ maxSignificand) (hzeros : 0 < zeros) :
    0 < keptZeros whole zeros :=
  Nat.le_findGreatest hzeros (by simpa using h)

/-- A whole number survives all zeros if it survives ten of them: with more than ten that fit, there is
nothing to round off. -/
theorem survives_kept_zeros {whole zeros : Nat} (hfits : whole ≤ maxSignificand)
    (h : whole * 5 ^ min zeros 10 < 2 ^ 53) :
    Magnitude.SurvivesZeros whole (keptZeros whole zeros) := by
  refine Magnitude.survives_zeros_of_lt ?_
  have hkept : keptZeros whole zeros ≤ zeros := Nat.findGreatest_le zeros
  have hfit := kept_zeros_fit hfits zeros
  generalize keptZeros whole zeros = kept at hkept hfit ⊢
  rcases le_or_gt kept 10 with hfew | hmany
  · calc whole * 5 ^ kept ≤ whole * 5 ^ min zeros 10 :=
          Nat.mul_le_mul_left _ (Nat.pow_le_pow_right (by decide) (le_min hkept hfew))
      _ < 2 ^ 53 := h
  · have htwos : 2 ^ 11 ≤ 2 ^ kept := Nat.pow_le_pow_right (by decide) hmany
    have hten : whole * 10 ^ kept = whole * 5 ^ kept * 2 ^ kept := by
      rw [mul_assoc, ← Nat.mul_pow]
    have hsplit : whole * 5 ^ kept * 2 ^ 11 ≤ whole * 10 ^ kept := by
      rw [hten]
      exact Nat.mul_le_mul_left _ htwos
    rw [maxSignificand] at hfit
    omega

/-- Zeros are appended until one does not fit. -/
theorem append_digits_zeros {kept zeros : Nat} (hle : kept ≤ zeros)
    (hfit : significand * 10 ^ kept ≤ maxSignificand)
    (hstop : kept < zeros → maxSignificand < significand * 10 ^ (kept + 1)) :
    appendDigits significand taken (List.replicate zeros '0') = (significand * 10 ^ kept, taken + kept) := by
  induction kept generalizing significand taken zeros with
  | zero =>
      cases zeros with
      | zero => simp [appendDigits]
      | succ zeros =>
          have hbeyond : ¬ significand * 10 + ('0'.toNat - '0'.toNat) ≤ maxSignificand := by
            have := hstop (Nat.succ_pos zeros)
            omega
          rw [List.replicate_succ, appendDigits, if_neg hbeyond, pow_zero, mul_one, add_zero]
  | succ kept ih =>
      obtain ⟨zeros, rfl⟩ := Nat.exists_eq_add_one_of_ne_zero (by omega : zeros ≠ 0)
      have hshift (k : Nat) : significand * 10 ^ (k + 1) = significand * 10 * 10 ^ k := by ring
      have hnext : significand * 10 + ('0'.toNat - '0'.toNat) = significand * 10 := rfl
      have hle' : significand * 10 ≤ maxSignificand := by
        rw [hshift] at hfit
        exact (Nat.le_mul_of_pos_right _ (Nat.pow_pos (by decide))).trans hfit
      rw [List.replicate_succ, appendDigits, hnext, if_pos hle', ih (by omega) (by rwa [← hshift])
        (fun hmore => by rw [← hshift]; exact hstop (by omega)), hshift]
      simp only [Prod.mk.injEq, true_and]
      omega

/-- As many zeros are appended as fit. -/
theorem append_digits_replicate {whole : Nat} (h : whole ≤ maxSignificand) (zeros : Nat) :
    appendDigits whole 0 (List.replicate zeros '0') =
      (whole * 10 ^ keptZeros whole zeros, keptZeros whole zeros) := by
  have hstop (hmore : keptZeros whole zeros < zeros) :
      ¬ whole * 10 ^ (keptZeros whole zeros + 1) ≤ maxSignificand :=
    Nat.findGreatest_is_greatest (P := fun kept => whole * 10 ^ kept ≤ maxSignificand)
      (Nat.lt_succ_self _) hmore
  have hzeros : appendDigits whole 0 (List.replicate zeros '0') = _ :=
    append_digits_zeros (Nat.findGreatest_le zeros) (kept_zeros_fit h zeros)
      (fun hmore => not_le.1 (hstop hmore))
  rwa [Nat.zero_add] at hzeros

/-- No more than nineteen zeros fit behind a positive number. -/
theorem zeros_le_of_fit {whole kept : Nat} (hpos : 0 < whole)
    (hfit : whole * 10 ^ kept ≤ maxSignificand) : kept ≤ 19 := by
  by_contra hmany
  have hbeyond : 10 ^ 20 ≤ 10 ^ kept := Nat.pow_le_pow_right (by decide) (by omega)
  have hbound : 10 ^ kept ≤ whole * 10 ^ kept := Nat.le_mul_of_pos_left _ hpos
  rw [maxSignificand] at hfit
  omega

/-- Digits with zeros behind the point are rounded together, and then their quotient by the power of ten
is. -/
theorem exists_magnitude_eq {whole kept : Nat} (hkept : 0 < kept)
    (hfit : whole * 10 ^ kept ≤ maxSignificand) :
    ∃ x, magnitude? (whole * 10 ^ kept) (((0 : Nat) : Int) - kept) none = some x ∧
      x.multiple = Magnitude.unitsRead whole kept ∧ -1074 ≤ x.exponent := by
  have hscale {x z : Magnitude} (hx : Magnitude.ofRatio (whole * 10 ^ kept) 1 = some x)
      (hdown : scaleDown x kept = some z) :
      magnitude? (whole * 10 ^ kept) (((0 : Nat) : Int) - kept) none = some z := by
    have hsign : ¬ (0 : Int) ≤ ((0 : Nat) : Int) - kept := by omega
    have hpower : (-(((0 : Nat) : Int) - kept)).toNat = kept := by omega
    simp only [magnitude?, hx, scale, if_neg hsign, hpower, hdown, Option.bind_eq_bind, Option.bind_some]
  obtain rfl | hpos := whole.eq_zero_or_pos
  · have hzero : Magnitude.ofRatio (0 * 10 ^ kept) 1 = some Magnitude.zero := by
      rw [Nat.zero_mul]
      rfl
    have hdown : scaleDown Magnitude.zero kept = some Magnitude.zero := by
      rw [scaleDown]
      rfl
    refine ⟨Magnitude.zero, hscale hzero hdown, ?_, le_rfl⟩
    rw [Magnitude.survives_zeros_zero kept, Nat.zero_mul]
    rfl
  · have hfew := zeros_le_of_fit hpos hfit
    obtain ⟨x, y, z, hx, hnonzero, hy, hz, hread, hexponent⟩ :=
      Magnitude.exists_quotient_eq (Nat.mul_pos hpos (Nat.pow_pos (by decide)))
        (hfit.trans (by decide)) hfew
    have hdown : scaleDown x kept = some z := by
      rw [scaleDown, hnonzero]
      simp [hy, hz, (by omega : kept ≤ 308)]
    exact ⟨z, hscale hx hdown, hread, hexponent⟩

end Numeral

/-! ## Numerals without an exponent -/

/-- What ends a value is no part of a number. -/
theorem Json.EndsPart.not_number {rest : List Char} (h : Json.EndsPart rest) :
    ∀ c ∈ rest.head?, isAsciiDigit c = false ∧ c ∉ ['.', 'e', 'E'] := by
  have hends : ∀ c ∈ Json.partEnds, isAsciiDigit c = false ∧ c ∉ ['.', 'e', 'E'] := by
    simp only [Json.partEnds, List.forall_mem_cons, List.not_mem_nil, false_implies, implies_true]
    decide
  exact fun c hc => hends c (h c hc)

/-- The spelling of an integer without an exponent, with a number of zeros behind the point. There is no
point if there are no zeros. -/
structure WholeLiteral where
  value : Int
  zeros : Nat

namespace WholeLiteral

open Json

variable (literal : WholeLiteral)

/-- The numeral that the literal is. -/
def numeral : Numeral where
  negative := literal.value < 0
  whole := natDigits literal.value.natAbs
  fraction := List.replicate literal.zeros '0'
  exponent := none

/-- The characters from the point on. -/
def fractionChars : List Char :=
  if literal.zeros = 0 then [] else '.' :: List.replicate literal.zeros '0'

/-- The characters of the literal. -/
def chars : List Char :=
  (intText literal.value).toList ++ literal.fractionChars

/-- The characters of a literal: its sign, its digits, and what stands from the point on. -/
theorem chars_append (rest : List Char) : literal.chars ++ rest =
    (if literal.value < 0 then ['-'] else []) ++
      (natDigits literal.value.natAbs ++ (literal.fractionChars ++ rest)) := by
  rw [chars, int_text_to_list]
  simp only [List.append_assoc]

/-- Digits are not mistaken for a sign. -/
theorem digits_append_ne_dash (n : Nat) (tail rest : List Char) : natDigits n ++ tail ≠ '-' :: rest := by
  intro hdash
  obtain ⟨c, digits, hcons⟩ := List.exists_cons_of_ne_nil (nat_digits_ne_nil n)
  have hdigit := is_ascii_digit_of_mem_nat_digits c (hcons ▸ List.mem_cons_self)
  rw [hcons, List.cons_append] at hdash
  rw [(List.cons.inj hdash).1] at hdigit
  exact absurd hdigit (by decide)

/-- What stands behind the digits is no digit. -/
theorem fraction_chars_not_digit {rest : List Char} (hrest : EndsPart rest) :
    ∀ c ∈ (literal.fractionChars ++ rest).head?, isAsciiDigit c = false := by
  intro c hc
  rw [fractionChars] at hc
  split at hc
  · exact (hrest.not_number c hc).1
  · obtain rfl : '.' = c := Option.some.inj hc
    rfl

/-- A literal is read as its numeral. -/
theorem read_numeral_chars {rest : List Char} (hrest : EndsPart rest) :
    readNumeral (literal.chars ++ rest) = some (literal.numeral, rest) := by
  have hdigits := is_ascii_digit_of_mem_nat_digits (n := literal.value.natAbs)
  have hnext := literal.fraction_chars_not_digit hrest
  have hfilled := nat_digits_ne_nil literal.value.natAbs
  have hzero := @length_nat_digits_of_head literal.value.natAbs
  have hother (c : Char) (hc : c ∈ ['.', 'e', 'E']) : rest.head? ≠ some c :=
    fun hhead => (hrest.not_number c hhead).2 hc
  have hexponent : rest.head? ≠ some 'e' ∧ rest.head? ≠ some 'E' :=
    ⟨hother 'e' (by decide), hother 'E' (by decide)⟩
  have hdash := digits_append_ne_dash literal.value.natAbs (literal.fractionChars ++ rest)
  unfold readNumeral
  rw [chars_append]
  by_cases hzeros : literal.zeros = 0
  · have hfraction : literal.fractionChars = [] := if_pos hzeros
    have hpoint (tail : List Char) : rest ≠ '.' :: tail := by
      rintro rfl
      exact hother '.' (by decide) rfl
    rw [hfraction, List.nil_append] at hnext hdash ⊢
    by_cases hsign : literal.value < 0 <;>
      simpa [numeral, hsign, hzeros, hdash, hpoint, hexponent, hfilled,
        take_while_append_of_all hdigits hnext, drop_while_append_of_all hdigits hnext] using hzero
  · have hfraction : literal.fractionChars = '.' :: List.replicate literal.zeros '0' := if_neg hzeros
    have hall : ∀ c ∈ List.replicate literal.zeros '0', isAsciiDigit c = true := by
      intro c hc
      rw [List.eq_of_mem_replicate hc]
      rfl
    have hend : ∀ c ∈ rest.head?, isAsciiDigit c = false := fun c hc => (hrest.not_number c hc).1
    rw [hfraction, List.cons_append] at hnext hdash ⊢
    by_cases hsign : literal.value < 0 <;>
      simpa [numeral, hsign, hzeros, hdash, hexponent, hfilled, take_while_append_of_all hdigits hnext,
        drop_while_append_of_all hdigits hnext, take_while_append_of_all hall hend,
        drop_while_append_of_all hall hend] using hzero

/-- A character that starts a number: a minus sign or a digit. -/
def StartsNumber (c : Char) : Prop :=
  c = '-' ∨ isAsciiDigit c = true

/-- What starts a number is no other character. -/
theorem StartsNumber.ne {c d : Char} (hc : StartsNumber c) (hdash : d ≠ '-')
    (hdigit : isAsciiDigit d = false) : c ≠ d := by
  rintro rfl
  rcases hc with hc | hc
  · exact hdash hc
  · rw [hdigit] at hc
    cases hc

/-- A number does not start with space. -/
theorem StartsNumber.not_space {c : Char} (hc : StartsNumber c) : isSpace c = false := by
  simp only [isSpace, Bool.or_eq_false_iff, beq_eq_false_iff_ne]
  exact ⟨⟨⟨hc.ne (by decide) (by decide), hc.ne (by decide) (by decide)⟩,
    hc.ne (by decide) (by decide)⟩, hc.ne (by decide) (by decide)⟩

/-- The first character of a literal is a minus sign or a digit. -/
theorem exists_chars_eq_cons : ∃ c cs, literal.chars = c :: cs ∧ StartsNumber c := by
  have hhead : literal.chars ≠ [] := by
    rw [← List.append_nil literal.chars, chars_append]
    simp [nat_digits_ne_nil]
  obtain ⟨c, cs, hcons⟩ := List.exists_cons_of_ne_nil hhead
  refine ⟨c, cs, hcons, ?_⟩
  have hfirst := literal.chars_append []
  rw [List.append_nil, hcons] at hfirst
  by_cases hsign : literal.value < 0
  · rw [if_pos hsign] at hfirst
    exact .inl (List.cons.inj hfirst).1
  · obtain ⟨digit, digits, hdigits⟩ := List.exists_cons_of_ne_nil (nat_digits_ne_nil literal.value.natAbs)
    rw [if_neg hsign, hdigits] at hfirst
    rw [(List.cons.inj hfirst).1]
    exact .inr (is_ascii_digit_of_mem_nat_digits digit (hdigits ▸ List.mem_cons_self))

/-- A literal is read as the value of its numeral. -/
theorem read_value_chars {rest : List Char} (hrest : EndsPart rest) (fuel depth : Nat) :
    readValue (fuel + 1) depth (literal.chars ++ rest) = some (ofNumeral literal.numeral, rest) := by
  obtain ⟨c, cs, hcons, hc⟩ := literal.exists_chars_eq_cons
  have hread := literal.read_numeral_chars hrest
  have hskip : skipSpace (c :: (cs ++ rest)) = c :: (cs ++ rest) :=
    List.dropWhile_cons_of_neg (by simp [hc.not_space])
  rw [hcons, List.cons_append] at hread ⊢
  rw [readValue, hskip]
  split
  case h_7 => simp only [hread, Option.bind_eq_bind, Option.bind_some]
  -- No other value starts like a number.
  all_goals
    rename_i heq
    exact absurd (List.cons.inj heq).1 (hc.ne (by decide) (by decide))

/-- The text of the literal. -/
def text : String :=
  String.ofList literal.chars

/-- Without zeros the text is that of the integer. -/
theorem text_of_no_zeros (n : Int) : text ⟨n, 0⟩ = intText n := by
  rw [text, chars, fractionChars, if_pos rfl, List.append_nil, String.ofList_toList]

/-- With zeros the text is that of the integer, a point, and the zeros. -/
theorem text_of_zeros (n : Int) {zeros : Nat} (h : 0 < zeros) :
    text ⟨n, zeros⟩ = intText n ++ "." ++ String.ofList (List.replicate zeros '0') := by
  have hpoint : '.' :: List.replicate zeros '0' = ['.'] ++ List.replicate zeros '0' := rfl
  rw [text, chars, fractionChars, if_neg h.ne', hpoint, String.ofList_append, String.ofList_append,
    String.ofList_toList, String.append_assoc]

/-- The text of a literal is one of the value of its numeral. -/
theorem is_text_of (depth : Nat) : IsTextOf depth (ofNumeral literal.numeral) literal.text := by
  intro fuel rest hfuel hrest
  obtain ⟨c, cs, hcons, _⟩ := literal.exists_chars_eq_cons
  rw [text, String.toList_ofList] at hfuel ⊢
  rw [hcons, List.length_cons] at hfuel
  obtain ⟨fuel, rfl⟩ := Nat.exists_eq_add_one_of_ne_zero (by omega : fuel ≠ 0)
  exact literal.read_value_chars hrest fuel depth

/-- Without zeros a literal of 64 bits stands for its integer. -/
theorem value_of_no_zeros (hzeros : literal.zeros = 0) (hleast : -0x8000000000000000 ≤ literal.value)
    (hgreatest : literal.value ≤ Numeral.maxSignificand) :
    literal.numeral.value? = some (.integer literal.value) := by
  have hfits : literal.value.natAbs ≤ Numeral.maxSignificand := by
    rw [Numeral.maxSignificand] at hgreatest ⊢
    omega
  have happend := Numeral.append_digits_nat_digits hfits
  rw [Numeral.value?, numeral, hzeros]
  simp only [happend, List.replicate_zero, List.isEmpty_nil, Option.isNone_none, Nat.sub_self]
  by_cases hsign : literal.value < 0
  · have hbounds : 0 < literal.value.natAbs ∧ literal.value.natAbs ≤ 0x8000000000000000 := by omega
    have hvalue : -(literal.value.natAbs : Int) = literal.value := by omega
    generalize literal.value.natAbs = magnitude at hbounds hvalue ⊢
    simp [hsign, hbounds, hvalue]
  · have hvalue : (literal.value.natAbs : Int) = literal.value := by omega
    generalize literal.value.natAbs = magnitude at hvalue ⊢
    simp [hsign, hvalue]

/-- With zeros a literal of 64 bits stands for the quotient of its digits by the power of ten, both of
them rounded. -/
theorem exists_value_of_zeros (hzeros : 0 < literal.zeros)
    (hfits : literal.value.natAbs * 10 ≤ Numeral.maxSignificand) :
    ∃ x : Magnitude, literal.numeral.value? = some (.real ⟨literal.value < 0, x⟩) ∧
      x.multiple = Magnitude.unitsRead literal.value.natAbs
        (Numeral.keptZeros literal.value.natAbs literal.zeros) ∧ -1074 ≤ x.exponent := by
  have hfits' : literal.value.natAbs ≤ Numeral.maxSignificand := by omega
  have happend := Numeral.append_digits_nat_digits hfits'
  have hzeros' := Numeral.append_digits_replicate hfits' literal.zeros
  have hfilled : (List.replicate literal.zeros '0').isEmpty = false := by
    simpa using hzeros.ne'
  obtain ⟨x, hx, hunits⟩ := Numeral.exists_magnitude_eq (Numeral.kept_zeros_pos hfits hzeros)
    (Numeral.kept_zeros_fit hfits' literal.zeros)
  refine ⟨x, ?_, hunits⟩
  rw [Numeral.value?, numeral]
  simp only [happend, hfilled, hzeros', hx, Bool.false_and, Nat.sub_self, Bool.false_eq_true, if_false,
    Option.bind_eq_bind, Option.bind_some]

end WholeLiteral

end CardCatalog
