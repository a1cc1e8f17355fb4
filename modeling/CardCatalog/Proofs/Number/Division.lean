import CardCatalog.Proofs.Number.Rounding

/-!
# Rounded quotients of rounded numbers

A number that comes out of a rounding is a whole `multiple` of the smallest positive one, and this
count is all that a quotient (`map_multiple_div`) and the whole part (`multiple_eq_iff`) depend on. A
whole number below `2 ^ 53` and a power of ten up to the nineteenth are rounded to themselves. The two
roundings in a row that a whole number goes through when it is written with zeros behind the point are
`unitsRead`; `SurvivesZeros` says that they give the number back.
-/

namespace CardCatalog.Number.Magnitude

variable {x y : Magnitude} {n d : Nat}

/-! ## Numbers as multiples of the smallest positive one -/

/-- The multiple of the smallest positive number that one is. -/
def unitsInOne : Nat :=
  2 ^ 1074

/-- One is a positive multiple. -/
theorem units_in_one_pos : 0 < unitsInOne := by
  rw [unitsInOne]
  positivity

/-- The denominator of a number is positive. -/
theorem ratio_snd_pos (x : Magnitude) : 0 < x.ratio.2 := by
  rw [ratio]
  split
  · exact one_pos
  · exact Nat.two_pow_pos _

/-- A number is its multiple of the smallest positive one. -/
theorem ratio_fst_mul (hx : -1074 ≤ x.exponent) : x.ratio.1 * unitsInOne = x.multiple * x.ratio.2 := by
  rw [ratio, multiple, unitsInOne]
  split
  · rename_i hexponent
    have hsum : (x.exponent + 1074).toNat = x.exponent.toNat + 1074 := by omega
    simp only [Nat.pow_eq, hsum, pow_add, mul_one, mul_assoc]
  · rename_i hexponent
    have hsum : (1074 : Nat) = (x.exponent + 1074).toNat + (-x.exponent).toNat := by omega
    simp only [Nat.pow_eq]
    conv => lhs; rw [hsum, pow_add, ← mul_assoc]

/-- A number is zero exactly if its multiple is. -/
theorem multiple_pos_iff : 0 < x.multiple ↔ x.isZero = false := by
  rw [multiple, isZero, beq_eq_false_iff_ne, ← Nat.pos_iff_ne_zero]
  exact ⟨fun h => Nat.pos_of_mul_pos_right h, fun h => Nat.mul_pos h (Nat.two_pow_pos _)⟩

/-- The numerator of a positive number is positive. -/
theorem ratio_fst_pos (hx : 0 < x.multiple) : 0 < x.ratio.1 := by
  have hsignificand : 0 < x.significand := Nat.pos_of_mul_pos_right hx
  rw [ratio]
  split
  · exact Nat.mul_pos hsignificand (Nat.two_pow_pos _)
  · exact hsignificand

/-- A number has a multiple of a whole number of ones exactly if it is whole and that is its whole
part. -/
theorem multiple_eq_iff (hx : -1074 ≤ x.exponent) (whole : Nat) :
    x.multiple = whole * unitsInOne ↔ x.isWhole = true ∧ x.floor = whole := by
  have hpos := ratio_snd_pos x
  have hratio := ratio_fst_mul hx
  have hmultiple : x.multiple = whole * unitsInOne ↔ x.ratio.1 = whole * x.ratio.2 := by
    constructor
    · intro h
      rw [h, mul_right_comm] at hratio
      exact Nat.eq_of_mul_eq_mul_right units_in_one_pos hratio
    · intro h
      rw [h, mul_right_comm] at hratio
      exact (Nat.eq_of_mul_eq_mul_right hpos hratio).symm
  rw [hmultiple, isWhole, floor, beq_iff_eq]
  constructor
  · intro h
    rw [h]
    exact ⟨Nat.mul_mod_left .., Nat.mul_div_cancel _ hpos⟩
  · rintro ⟨hrest, rfl⟩
    exact (Nat.div_mul_cancel (Nat.dvd_of_mod_eq_zero hrest)).symm

/-! ## Numbers that come out of a rounding -/

/-- Rounding gives no number a finer last place than that of the smallest positive one. -/
theorem le_exponent_of_ratio (h : ofRatio n d = some x) : -1074 ≤ x.exponent := by
  have hleast : -1074 ≤ max (floorLog2 n d - 52) (-1074) := le_max_right ..
  rw [ofRatio] at h
  simp only at h
  split_ifs at h <;> cases h
  · exact le_rfl
  all_goals simp only; omega

/-- Equal quotients are rounded alike. -/
theorem units_of_congr {m e : Nat} (hn : 0 < n) (hd : 0 < d) (hm : 0 < m) (he : 0 < e)
    (h : (n : ℚ) / d = m / e) : unitsOf n d = unitsOf m e :=
  le_antisymm (units_of_le_units_of hn hd hm he h.le) (units_of_le_units_of hm he hn hd h.ge)

/-- A quotient that is not too great is rounded to a number. -/
theorem exists_of_ratio_eq (hn : 0 < n) (hd : 0 < d) (hlimit : unitsOf n d < unitsLimit) :
    ∃ x, ofRatio n d = some x ∧ x.multiple = unitsOf n d ∧ -1074 ≤ x.exponent := by
  have hmultiple := of_ratio_eq hn hd
  rw [if_pos hlimit] at hmultiple
  obtain ⟨x, hx, hunits⟩ := Option.map_eq_some_iff.1 hmultiple
  exact ⟨x, hx, hunits, le_exponent_of_ratio hx⟩

/-- The quotient of positive numbers is that of their multiples, rounded. -/
theorem exists_div_eq (hx : -1074 ≤ x.exponent) (hy : -1074 ≤ y.exponent) (hx' : 0 < x.multiple)
    (hy' : 0 < y.multiple) (hlimit : unitsOf x.multiple y.multiple < unitsLimit) :
    ∃ z, x.div y = some z ∧ z.multiple = unitsOf x.multiple y.multiple ∧ -1074 ≤ z.exponent := by
  have hn : 0 < x.ratio.1 * y.ratio.2 := Nat.mul_pos (ratio_fst_pos hx') (ratio_snd_pos y)
  have hd : 0 < x.ratio.2 * y.ratio.1 := Nat.mul_pos (ratio_snd_pos x) (ratio_fst_pos hy')
  have hvalue : ((x.ratio.1 * y.ratio.2 : Nat) : ℚ) / (x.ratio.2 * y.ratio.1 : Nat) =
      x.multiple / y.multiple := by
    have hcross : x.ratio.1 * y.ratio.2 * y.multiple = x.multiple * (x.ratio.2 * y.ratio.1) := by
      refine Nat.eq_of_mul_eq_mul_right units_in_one_pos ?_
      calc x.ratio.1 * y.ratio.2 * y.multiple * unitsInOne
          = x.ratio.1 * unitsInOne * (y.multiple * y.ratio.2) := by ring
        _ = x.multiple * x.ratio.2 * (y.ratio.1 * unitsInOne) := by
            rw [ratio_fst_mul hx, ratio_fst_mul hy]
        _ = x.multiple * (x.ratio.2 * y.ratio.1) * unitsInOne := by ring
    rw [div_eq_div_iff (by exact_mod_cast hd.ne') (by exact_mod_cast hy'.ne')]
    exact_mod_cast hcross
  have hunits := units_of_congr hn hd hx' hy' hvalue
  rw [← hunits] at hlimit ⊢
  exact exists_of_ratio_eq hn hd hlimit

/-! ## Whole numbers and powers of ten -/

/-- Zero is rounded to zero. -/
theorem units_of_zero (d : Nat) : unitsOf 0 d = 0 := by
  have hscaled (exponent : Int) : (scaled 0 d exponent).1 = 0 := by
    rw [scaled]
    split
    · rfl
    · exact Nat.zero_mul _
  rw [unitsOf, significandOf, hscaled, roundDiv]
  simp

/-- A whole number with few bits above its last zeros is rounded to itself. -/
theorem units_of_one {m k : Nat} (hm : 0 < m) (hbits : m < 2 ^ 53) :
    unitsOf (m * 2 ^ k) 1 = m * 2 ^ k * unitsInOne := by
  have hunits : unitsOf (m * 2 ^ k) 1 = m * 2 ^ ((k : Int) + 1074).toNat :=
    units_of_eq (Nat.mul_pos hm (Nat.two_pow_pos k)) one_pos hbits (by omega)
      (by push_cast; rw [div_one, zpow_natCast])
  have hsum : ((k : Int) + 1074).toNat = k + 1074 := by omega
  rw [hunits, hsum, pow_add, mul_assoc, unitsInOne]

/-- The quotient of a whole number of units by those of one is rounded to itself if the whole number
has few bits. -/
theorem units_of_self {m d : Nat} (hm : 0 < m) (hd : 0 < d) (hbits : m < 2 ^ 53) :
    unitsOf (m * d) d = m * unitsInOne := by
  have hd' : (d : ℚ) ≠ 0 := by exact_mod_cast hd.ne'
  have hunits : unitsOf (m * d) d = m * 2 ^ ((0 : Int) + 1074).toNat :=
    units_of_eq (Nat.mul_pos hm hd) hd hbits (by decide)
      (by rw [Nat.cast_mul, zpow_zero, mul_one, mul_div_cancel_right₀ _ hd'])
  have hexponent : ((0 : Int) + 1074).toNat = 1074 := rfl
  rw [hunits, hexponent, unitsInOne]

/-- Whole numbers of 64 bits are not too great. -/
theorem units_of_lt_limit {m d : Nat} (hm : 0 < m) (hd : 0 < d) (hle : m ≤ 2 ^ 64 * d) :
    unitsOf m d < unitsLimit := by
  have hd' : (0 : ℚ) < d := by exact_mod_cast hd
  have hbound : unitsOf (1 * 2 ^ 64) 1 = 1 * 2 ^ 64 * unitsInOne := units_of_one one_pos (by decide)
  refine (units_of_le_units_of (m := 1 * 2 ^ 64) hm hd (by decide) one_pos ?_).trans_lt ?_
  · rw [Nat.cast_one, div_one, div_le_iff₀ hd']
    exact_mod_cast (by simpa using hle)
  · rw [hbound, unitsInOne, unitsLimit, one_mul, ← pow_add, Nat.pow_lt_pow_iff_right one_lt_two]
    omega

/-- A positive whole number is not rounded to less than one. -/
theorem units_in_one_le {m : Nat} (hm : 0 < m) : unitsInOne ≤ unitsOf m 1 := by
  have hone : unitsOf (1 * 2 ^ 0) 1 = 1 * 2 ^ 0 * unitsInOne := units_of_one one_pos (by decide)
  calc unitsInOne = unitsOf (1 * 2 ^ 0) 1 := by rw [hone, pow_zero, one_mul, one_mul]
    _ ≤ unitsOf m 1 := units_of_le_units_of one_pos one_pos hm one_pos
        (by rw [Nat.cast_one, div_one, div_one]; exact_mod_cast hm)

/-- A whole number of 64 bits is rounded to at most the next power of two. -/
theorem units_of_le {m : Nat} (hm : 0 < m) (hle : m ≤ 2 ^ 64) : unitsOf m 1 ≤ 2 ^ 64 * unitsInOne := by
  have hbound : unitsOf (1 * 2 ^ 64) 1 = 1 * 2 ^ 64 * unitsInOne := units_of_one one_pos (by decide)
  calc unitsOf m 1 ≤ unitsOf (1 * 2 ^ 64) 1 := units_of_le_units_of hm one_pos (by decide) one_pos
        (by rw [Nat.cast_one, div_one, div_one]; exact_mod_cast (by simpa using hle))
    _ = 2 ^ 64 * unitsInOne := by rw [hbound, one_mul]

/-- A power of ten up to the nineteenth is a number. -/
theorem exists_power_of_ten_eq {k : Nat} (hk : k ≤ 19) :
    ∃ x, powerOfTen k = some x ∧ x.multiple = 10 ^ k * unitsInOne ∧ -1074 ≤ x.exponent := by
  have hten : (10 : Nat) ^ k = 5 ^ k * 2 ^ k := Nat.mul_pow 5 2 k
  have hpos : 0 < 5 ^ k * 2 ^ k := by positivity
  have hfives : 5 ^ k < 2 ^ 53 := by
    calc 5 ^ k ≤ 5 ^ 19 := Nat.pow_le_pow_right (by decide) hk
      _ < 2 ^ 53 := by decide
  have hle : 5 ^ k * 2 ^ k ≤ 2 ^ 64 * 1 := by
    calc 5 ^ k * 2 ^ k = 10 ^ k := hten.symm
      _ ≤ 10 ^ 19 := Nat.pow_le_pow_right (by decide) hk
      _ ≤ 2 ^ 64 * 1 := by decide
  rw [powerOfTen, Nat.pow_eq, hten, ← units_of_one (by positivity) hfives]
  exact exists_of_ratio_eq hpos one_pos (units_of_lt_limit hpos one_pos hle)

/-- A whole number of 64 bits and a power of ten up to the nineteenth are rounded and divided. -/
theorem exists_quotient_eq {m k : Nat} (hm : 0 < m) (hle : m ≤ 2 ^ 64) (hk : k ≤ 19) :
    ∃ x y z, ofRatio m 1 = some x ∧ x.isZero = false ∧ powerOfTen k = some y ∧ x.div y = some z ∧
      z.multiple = unitsOf (unitsOf m 1) (10 ^ k * unitsInOne) ∧ -1074 ≤ z.exponent := by
  have hten : 0 < 10 ^ k := Nat.pow_pos (by decide)
  obtain ⟨x, hx, hunits, hexponent⟩ :=
    exists_of_ratio_eq hm one_pos (units_of_lt_limit hm one_pos (by simpa using hle))
  obtain ⟨y, hy, hunits', hexponent'⟩ := exists_power_of_ten_eq hk
  have hpos : 0 < x.multiple := by
    rw [hunits]
    exact units_in_one_pos.trans_le (units_in_one_le hm)
  have hpos' : 0 < y.multiple := by
    rw [hunits']
    exact Nat.mul_pos hten units_in_one_pos
  have hlimit : unitsOf x.multiple y.multiple < unitsLimit := by
    refine units_of_lt_limit hpos hpos' ?_
    calc x.multiple ≤ 2 ^ 64 * unitsInOne := hunits ▸ units_of_le hm hle
      _ ≤ 2 ^ 64 * y.multiple := by
          rw [hunits']
          exact Nat.mul_le_mul_left _ (Nat.le_mul_of_pos_left _ hten)
  obtain ⟨z, hz, hquotient, hexponent⟩ := exists_div_eq hexponent hexponent' hpos hpos' hlimit
  rw [hunits, hunits'] at hquotient
  exact ⟨x, y, z, hx, multiple_pos_iff.1 hpos, hy, hz, hquotient, hexponent⟩

/-! ## Zeros behind the point -/

/-- What a whole number is read as if it is written with zeros behind the point, in units of the
smallest positive number: its digits and the zeros are rounded together, and then their quotient by the
power of ten is. -/
def unitsRead (whole zeros : Nat) : Nat :=
  unitsOf (unitsOf (whole * 10 ^ zeros) 1) (10 ^ zeros * unitsInOne)

/-- A whole number is read as itself if it is written with zeros behind the point. -/
def SurvivesZeros (whole zeros : Nat) : Prop :=
  unitsRead whole zeros = whole * unitsInOne

instance (whole zeros : Nat) : Decidable (SurvivesZeros whole zeros) :=
  inferInstanceAs (Decidable (_ = _))

/-- Zero is read as itself. -/
theorem survives_zeros_zero (zeros : Nat) : SurvivesZeros 0 zeros := by
  rw [SurvivesZeros, unitsRead, Nat.zero_mul, Nat.zero_mul, units_of_zero, units_of_zero]

/-- A whole number is read as itself if the first rounding has nothing to round off. -/
theorem survives_zeros_of_lt {whole zeros : Nat} (h : whole * 5 ^ zeros < 2 ^ 53) :
    SurvivesZeros whole zeros := by
  obtain rfl | hpos := whole.eq_zero_or_pos
  · exact survives_zeros_zero zeros
  have hfives : 0 < 5 ^ zeros := by positivity
  have hten : whole * 10 ^ zeros = whole * 5 ^ zeros * 2 ^ zeros := by
    rw [mul_assoc, ← Nat.mul_pow]
  have hwhole : whole < 2 ^ 53 := (Nat.le_mul_of_pos_right whole hfives).trans_lt h
  rw [SurvivesZeros, unitsRead, hten, units_of_one (Nat.mul_pos hpos hfives) h, ← hten, mul_assoc]
  exact units_of_self hpos (Nat.mul_pos (Nat.pow_pos (by decide)) units_in_one_pos) hwhole

end CardCatalog.Number.Magnitude
