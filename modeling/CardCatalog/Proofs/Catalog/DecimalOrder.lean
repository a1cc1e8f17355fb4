import CardCatalog.Catalog.StoredNumber
import CardCatalog.Proofs.Number.Rounding

/-!
# The order of decimals

A decimal has its place in the order by mana value from the binary64 number that it is rounded to. A
greater decimal is never placed before a smaller one (`OrderKey.of_decimal_le`), and what needs no
rounding is placed where it stands among the multiples of the smallest positive number
(`OrderKey.of_decimal_of_is_binary64`).
-/

namespace CardCatalog.StoredNumber

open CardCatalog.Number

/-! ## Places of decimals -/

/-- The number that a sign, digits and a power of ten stand for. -/
def decimalValue (negative : Bool) (digits : Nat) (power : Int) : ℚ :=
  (if negative then -1 else 1) * (digits * 10 ^ power)

/-- Digits times a power of ten, as a quotient. -/
def quotient (digits : Nat) (power : Int) : Nat × Nat :=
  if 0 ≤ power then (digits * Nat.pow 10 power.toNat, 1) else (digits, Nat.pow 10 (-power).toNat)

/-- The size of a decimal: the power of ten that its digits stay below. -/
def size (digits : Nat) (power : Int) : Int :=
  (natDigits digits).length + power

/-- What digits times a power of ten are rounded to, in units of the smallest positive number, and
the limit of these for what lies beyond all numbers. -/
def magnitude (digits : Nat) (power : Int) : Nat :=
  if digits = 0 ∨ size digits power < -400 then 0
  else if 400 < size digits power then Magnitude.unitsLimit
  else
    min (Magnitude.unitsOf (quotient digits power).1 (quotient digits power).2) Magnitude.unitsLimit

/-- The place of a magnitude with a sign. -/
def OrderKey.signed (negative : Bool) (units : Nat) : OrderKey :=
  if units < Magnitude.unitsLimit then ⟨0, if negative then -(units : Int) else units⟩
  else .infinite negative

variable {digits other : Nat} {power otherPower : Int}

/-- The quotient has a positive denominator, and a positive numerator if there are digits. -/
theorem quotient_pos (h : 0 < digits) (power : Int) :
    0 < (quotient digits power).1 ∧ 0 < (quotient digits power).2 := by
  rw [quotient]
  split
  · exact ⟨Nat.mul_pos h (Nat.pow_pos (by decide)), one_pos⟩
  · exact ⟨h, Nat.pow_pos (by decide)⟩

/-- The quotient is the number. -/
theorem quotient_eq (digits : Nat) (power : Int) :
    ((quotient digits power).1 : ℚ) / (quotient digits power).2 = digits * 10 ^ power := by
  rw [quotient]
  split
  · rename_i hpower
    conv => rhs; rw [← Int.toNat_of_nonneg hpower, zpow_natCast]
    simp
  · rename_i hpower
    have hneg : power = -((-power).toNat : Int) := by omega
    conv => rhs; rw [hneg, zpow_neg, zpow_natCast]
    simp [div_eq_mul_inv]

/-- A rounded quotient is placed by its units, and beyond all numbers if they reach the limit. -/
theorem OrderKey.place_of_ratio {n d : Nat} (hn : 0 < n) (hd : 0 < d) (negative : Bool) :
    (match Magnitude.ofRatio n d with
      | some x => ⟨0, if negative then -(x.multiple : Int) else x.multiple⟩
      | none => infinite negative) =
      signed negative (min (Magnitude.unitsOf n d) Magnitude.unitsLimit) := by
  have hrounded := Magnitude.of_ratio_eq hn hd
  generalize Magnitude.unitsOf n d = units at hrounded ⊢
  cases hmagnitude : Magnitude.ofRatio n d with
  | none =>
      rw [hmagnitude] at hrounded
      have hbeyond : ¬ units < Magnitude.unitsLimit := by
        intro hlt
        simp [hlt] at hrounded
      rw [signed, min_eq_right (not_lt.1 hbeyond), if_neg (lt_irrefl _)]
  | some x =>
      rw [hmagnitude, Option.map_some] at hrounded
      split at hrounded
      · rename_i hlt
        obtain rfl := Option.some.inj hrounded
        rw [signed, min_eq_left hlt.le, if_pos hlt]
      · cases hrounded

/-- A decimal is placed by its magnitude and its sign. -/
theorem OrderKey.of_decimal_eq (negative : Bool) (digits : Nat) (power : Int) :
    ofDecimal negative digits power = signed negative (magnitude digits power) := by
  have hsize : ((natDigits digits).length : Int) + power = size digits power := rfl
  have hratio : (if 0 ≤ power then Magnitude.ofRatio (digits * Nat.pow 10 power.toNat) 1
      else Magnitude.ofRatio digits (Nat.pow 10 (-power).toNat)) =
      Magnitude.ofRatio (quotient digits power).1 (quotient digits power).2 := by
    rw [quotient]
    split <;> rfl
  rw [ofDecimal, magnitude, hsize]
  by_cases hsmall : digits = 0 ∨ size digits power < -400
  · rw [if_pos hsmall, if_pos hsmall, signed, if_pos Magnitude.units_limit_pos]
    cases negative <;> rfl
  rw [if_neg hsmall, if_neg hsmall]
  by_cases hlarge : 400 < size digits power
  · rw [if_pos hlarge, if_pos hlarge, signed, if_neg (lt_irrefl _)]
  rw [if_neg hlarge, if_neg hlarge, hratio]
  have hpos : 0 < digits := Nat.pos_of_ne_zero fun hzero => hsmall (.inl hzero)
  exact place_of_ratio (quotient_pos hpos power).1 (quotient_pos hpos power).2 negative

/-- A decimal lies between two powers of ten that follow each other. -/
theorem size_bounds (h : 0 < digits) (power : Int) :
    (10 : ℚ) ^ (size digits power - 1) ≤ digits * 10 ^ power ∧
      (digits : ℚ) * 10 ^ power < 10 ^ size digits power := by
  have hlength : 0 < (natDigits digits).length := Nat.length_toDigits_pos
  have hbelow : digits < 10 ^ (natDigits digits).length :=
    (Nat.length_toDigits_le_iff (by decide) hlength).1 le_rfl
  have habove : 10 ^ ((natDigits digits).length - 1) ≤ digits := by
    rcases Nat.eq_zero_or_pos ((natDigits digits).length - 1) with hone | hmore
    · rw [hone]
      exact h
    · by_contra hlt
      have := (Nat.length_toDigits_le_iff (by decide) hmore).2 (not_le.1 hlt)
      have hsame : (Nat.toDigits 10 digits).length = (natDigits digits).length := rfl
      omega
  have hsplit : size digits power - 1 = ((natDigits digits).length - 1 : Nat) + power := by
    rw [size]
    omega
  have hpos : (0 : ℚ) < 10 ^ power := zpow_pos (by norm_num) power
  constructor
  · rw [hsplit, zpow_add₀ (by norm_num), zpow_natCast]
    exact mul_le_mul_of_nonneg_right (by exact_mod_cast habove) hpos.le
  · rw [size, zpow_add₀ (by norm_num), zpow_natCast]
    exact mul_lt_mul_of_pos_right (by exact_mod_cast hbelow) hpos

/-- A greater decimal has no smaller size. -/
theorem size_le_size (h : 0 < digits) (h' : 0 < other)
    (hle : (digits : ℚ) * 10 ^ power ≤ other * 10 ^ otherPower) :
    size digits power ≤ size other otherPower := by
  have hpowers : (10 : ℚ) ^ (size digits power - 1) < 10 ^ size other otherPower :=
    ((size_bounds h power).1.trans hle).trans_lt (size_bounds h' otherPower).2
  have := (zpow_lt_zpow_iff_right₀ (by norm_num)).1 hpowers
  omega

/-- A magnitude does not pass the limit. -/
theorem magnitude_le (digits : Nat) (power : Int) :
    magnitude digits power ≤ Magnitude.unitsLimit := by
  rw [magnitude]
  split_ifs
  · exact Magnitude.units_limit_pos.le
  · exact le_rfl
  · exact min_le_right ..

/-- Digits times a power of ten are positive if there is one that is not zero. -/
theorem decimal_pos (h : 0 < digits) (power : Int) : (0 : ℚ) < digits * 10 ^ power := by
  have hdigits : (0 : ℚ) < digits := by exact_mod_cast h
  exact mul_pos hdigits (zpow_pos (by norm_num) power)

/-- Zero has no magnitude. -/
theorem magnitude_eq_zero (hle : (digits : ℚ) * 10 ^ power ≤ 0) : magnitude digits power = 0 := by
  rcases Nat.eq_zero_or_pos digits with hzero | hdigits
  · exact if_pos (.inl hzero)
  · exact absurd hle (not_le.2 (decimal_pos hdigits power))

/-- A greater decimal is not rounded to less. -/
theorem magnitude_le_magnitude (hle : (digits : ℚ) * 10 ^ power ≤ other * 10 ^ otherPower) :
    magnitude digits power ≤ magnitude other otherPower := by
  rcases Nat.eq_zero_or_pos digits with hzero | hdigits
  · rw [magnitude, if_pos (.inl hzero)]
    exact Nat.zero_le _
  have hother : 0 < other := by
    refine Nat.pos_of_ne_zero fun hzero => ?_
    rw [hzero, Nat.cast_zero, zero_mul] at hle
    exact absurd hle (not_le.2 (decimal_pos hdigits power))
  have hsize := size_le_size hdigits hother hle
  have hunits : Magnitude.unitsOf (quotient digits power).1 (quotient digits power).2 ≤
      Magnitude.unitsOf (quotient other otherPower).1 (quotient other otherPower).2 := by
    obtain ⟨hfst, hsnd⟩ := quotient_pos hdigits power
    obtain ⟨hfst', hsnd'⟩ := quotient_pos hother otherPower
    refine Magnitude.units_of_le_units_of hfst hsnd hfst' hsnd' ?_
    rwa [quotient_eq, quotient_eq]
  have hlimit := magnitude_le digits power
  rw [magnitude] at hlimit ⊢
  rw [magnitude]
  split_ifs at hlimit ⊢ <;> omega

/-- The places of magnitudes are in the order of the numbers with their signs. -/
theorem OrderKey.signed_le_signed {m n : Nat} (hm : m ≤ Magnitude.unitsLimit)
    (hn : n ≤ Magnitude.unitsLimit) (negative other : Bool)
    (h : (if negative then -(m : Int) else m) ≤ if other then -(n : Int) else n) :
    (signed negative m).le (signed other n) = true := by
  have hpos := Magnitude.units_limit_pos
  simp only [le, Bool.or_eq_true, Bool.and_eq_true, decide_eq_true_eq, beq_iff_eq]
  rw [signed, signed, infinite, infinite]
  cases negative <;> cases other <;> simp only [if_true, if_false, Bool.false_eq_true] at h ⊢ <;>
    split_ifs <;> simp <;> omega

/-- A greater decimal is not placed before a smaller one. -/
theorem OrderKey.of_decimal_le {negative otherNegative : Bool}
    (h : decimalValue negative digits power ≤ decimalValue otherNegative other otherPower) :
    (ofDecimal negative digits power).le (ofDecimal otherNegative other otherPower) = true := by
  rw [of_decimal_eq, of_decimal_eq]
  refine signed_le_signed (magnitude_le _ _) (magnitude_le _ _) _ _ ?_
  have hnonneg : (0 : ℚ) ≤ digits * 10 ^ power := by positivity
  have hnonneg' : (0 : ℚ) ≤ other * 10 ^ otherPower := by positivity
  rw [decimalValue, decimalValue] at h
  cases negative <;> cases otherNegative <;>
    simp only [if_true, if_false, Bool.false_eq_true, one_mul, neg_mul, neg_le_neg_iff] at h ⊢
  · exact_mod_cast magnitude_le_magnitude h
  · rw [magnitude_eq_zero (by linarith), magnitude_eq_zero (by linarith)]
    decide
  · omega
  · have := magnitude_le_magnitude h
    omega

/-! ## Numbers that need no rounding -/

/-- The number is a finite binary64 number. -/
def IsBinary64 (q : ℚ) : Prop :=
  ∃ (significand : Nat) (exponent : Int), significand < 2 ^ 53 ∧ -1074 ≤ exponent ∧ exponent ≤ 971 ∧
    |q| = significand * 2 ^ exponent

/-- Three binary digits hold no more than a decimal one. -/
theorem two_zpow_le (k : Nat) : (2 : ℚ) ^ (3 * k : Int) ≤ 10 ^ (k : Int) := by
  rw [zpow_mul, zpow_natCast, zpow_natCast]
  exact pow_le_pow_left₀ (by norm_num) (by norm_num) k

/-- A decimal that is a binary64 number is not too small to be rounded. -/
theorem le_size_of_eq {significand : Nat} {exponent : Int} (hdigits : 0 < digits)
    (hleast : -1074 ≤ exponent) (h : (digits : ℚ) * 10 ^ power = significand * 2 ^ exponent) :
    -400 ≤ size digits power := by
  have hpos : 0 < significand := by
    refine Nat.pos_of_ne_zero fun hzero => ?_
    have := decimal_pos hdigits power
    rw [h, hzero] at this
    simp at this
  have hpowers : (10 : ℚ) ^ (-401 : Int) < 10 ^ size digits power := by
    calc (10 : ℚ) ^ (-401 : Int) ≤ 2 ^ (-1203 : Int) := by
          have := inv_anti₀ (zpow_pos two_pos _) (two_zpow_le 401)
          rw [← zpow_neg, ← zpow_neg] at this
          simpa using this
      _ ≤ 2 ^ exponent := zpow_le_zpow_right₀ one_le_two (by omega)
      _ ≤ significand * 2 ^ exponent := by
          have hone : (1 : ℚ) ≤ significand := by exact_mod_cast hpos
          exact le_mul_of_one_le_left (zpow_pos two_pos _).le hone
      _ = digits * 10 ^ power := h.symm
      _ < 10 ^ size digits power := (size_bounds hdigits power).2
  have := (zpow_lt_zpow_iff_right₀ (by norm_num)).1 hpowers
  omega

/-- A decimal that is a binary64 number is not too large to be rounded. -/
theorem size_le_of_eq {significand : Nat} {exponent : Int} (hdigits : 0 < digits)
    (hsignificand : significand < 2 ^ 53) (hgreatest : exponent ≤ 971)
    (h : (digits : ℚ) * 10 ^ power = significand * 2 ^ exponent) : size digits power ≤ 400 := by
  have hpowers : (10 : ℚ) ^ (size digits power - 1) < 10 ^ (400 : Int) := by
    calc (10 : ℚ) ^ (size digits power - 1) ≤ digits * 10 ^ power :=
          (size_bounds hdigits power).1
      _ = significand * 2 ^ exponent := h
      _ < 2 ^ 53 * 2 ^ exponent := by
          have hless : (significand : ℚ) < 2 ^ 53 := by exact_mod_cast hsignificand
          exact mul_lt_mul_of_pos_right hless (zpow_pos two_pos _)
      _ = 2 ^ (exponent + 53) := (Magnitude.two_zpow_add _ 53).symm
      _ ≤ 2 ^ (3 * 400 : Int) := zpow_le_zpow_right₀ one_le_two (by omega)
      _ ≤ 10 ^ (400 : Int) := two_zpow_le 400
  have := (zpow_lt_zpow_iff_right₀ (by norm_num)).1 hpowers
  omega

/-- Significands of binary64 numbers stay below the limit. -/
theorem units_lt_limit {significand : Nat} {exponent : Int} (hsignificand : significand < 2 ^ 53)
    (hgreatest : exponent ≤ 971) :
    significand * 2 ^ (exponent + 1074).toNat < Magnitude.unitsLimit := by
  calc significand * 2 ^ (exponent + 1074).toNat
      < 2 ^ 53 * 2 ^ (exponent + 1074).toNat :=
        Nat.mul_lt_mul_of_pos_right hsignificand (Nat.two_pow_pos _)
    _ = 2 ^ (53 + (exponent + 1074).toNat) := (pow_add ..).symm
    _ ≤ Magnitude.unitsLimit := by
        rw [Magnitude.unitsLimit, Nat.pow_le_pow_iff_right one_lt_two]
        omega

/-- The magnitude of a binary64 number is the number itself. -/
theorem magnitude_of_eq {significand : Nat} {exponent : Int}
    (hsignificand : significand < 2 ^ 53) (hleast : -1074 ≤ exponent) (hgreatest : exponent ≤ 971)
    (h : (digits : ℚ) * 10 ^ power = significand * 2 ^ exponent) :
    magnitude digits power = significand * 2 ^ (exponent + 1074).toNat := by
  rcases Nat.eq_zero_or_pos digits with hzero | hdigits
  · rw [hzero, Nat.cast_zero, zero_mul, eq_comm, mul_eq_zero] at h
    have hnone : significand = 0 := by
      exact_mod_cast h.resolve_right (zpow_pos two_pos _).ne'
    rw [magnitude, if_pos (.inl hzero), hnone, zero_mul]
  have hlow := le_size_of_eq hdigits hleast h
  have hhigh := size_le_of_eq hdigits hsignificand hgreatest h
  have hunits := Magnitude.units_of_eq (quotient_pos hdigits power).1 (quotient_pos hdigits power).2
    hsignificand hleast ((quotient_eq digits power).trans h)
  rw [magnitude, if_neg (by omega), if_neg (by omega), hunits,
    min_eq_left (units_lt_limit hsignificand hgreatest).le]

/-- A binary64 number is placed where it stands among the multiples of the smallest positive one. -/
theorem OrderKey.of_decimal_of_is_binary64 {negative : Bool}
    (h : IsBinary64 (decimalValue negative digits power)) :
    ∃ units : Int, ofDecimal negative digits power = ⟨0, units⟩ ∧
      (units : ℚ) = decimalValue negative digits power * 2 ^ (1074 : Int) := by
  obtain ⟨significand, exponent, hsignificand, hleast, hgreatest, heq⟩ := h
  have hnonneg : (0 : ℚ) ≤ digits * 10 ^ power := by positivity
  have hvalue : (digits : ℚ) * 10 ^ power = significand * 2 ^ exponent := by
    rw [← heq, decimalValue, abs_mul, abs_of_nonneg hnonneg]
    cases negative <;> simp
  have hunits : (significand : ℚ) * 2 ^ (exponent + 1074).toNat =
      digits * 10 ^ power * 2 ^ (1074 : Int) := by
    have hsum : ((exponent + 1074).toNat : Int) = exponent + 1074 := by omega
    rw [hvalue, ← zpow_natCast, hsum, zpow_add₀ two_ne_zero, mul_assoc]
  rw [of_decimal_eq, magnitude_of_eq hsignificand hleast hgreatest hvalue, signed,
    if_pos (units_lt_limit hsignificand hgreatest)]
  refine ⟨_, rfl, ?_⟩
  rw [decimalValue]
  cases negative with
  | true =>
      rw [if_pos rfl, if_pos rfl, neg_one_mul, neg_mul, ← hunits]
      push_cast
      rfl
  | false =>
      rw [if_neg Bool.false_ne_true, if_neg Bool.false_ne_true, one_mul, ← hunits]
      push_cast
      rfl

end CardCatalog.StoredNumber
