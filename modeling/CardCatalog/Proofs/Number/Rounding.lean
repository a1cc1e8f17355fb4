import CardCatalog.Number.Binary64
import Mathlib.Algebra.Order.Field.Power
import Mathlib.Data.Rat.Floor
import Mathlib.Tactic.FieldSimp
import Mathlib.Tactic.Linarith
import Mathlib.Tactic.Ring

/-!
# Rounding to binary64 is monotone

A quotient is rounded to a significand and a power of two. Counted in units of the smallest positive
number, the result is `unitsOf`, and what reaches `2 ^ 2098` of these units lies beyond all numbers
(`of_ratio_eq`). A greater quotient is never rounded to less (`units_of_le_units_of`).
-/

namespace CardCatalog.Number.Magnitude

/-! ## Nearest integers -/

/-- A whole number is the integer nearest to itself. -/
theorem round_div_one (n : Nat) : roundDiv n 1 = n := by
  simp [roundDiv, Nat.mod_one]

/-- A greater quotient has no smaller whole part. -/
theorem div_le_div_of_cross {a b c d : Nat} (hb : 0 < b) (hd : 0 < d) (h : a * d ≤ c * b) :
    a / b ≤ c / d := by
  rw [Nat.le_div_iff_mul_le hd]
  have hmul : a / b * d * b ≤ c * b := by
    calc a / b * d * b = a / b * b * d := by ring
      _ ≤ a * d := Nat.mul_le_mul_right d (Nat.div_mul_le_self a b)
      _ ≤ c * b := h
  exact Nat.le_of_mul_le_mul_right hmul hb

/-- A greater quotient has no smaller nearest integer. -/
theorem round_div_le_round_div {a b c d : Nat} (hb : 0 < b) (hd : 0 < d)
    (h : (a : ℚ) / b ≤ c / d) : roundDiv a b ≤ roundDiv c d := by
  have hcross : a * d ≤ c * b := by
    rw [div_le_div_iff₀ (by exact_mod_cast hb) (by exact_mod_cast hd)] at h
    exact_mod_cast h
  have hfloor := div_le_div_of_cross hb hd hcross
  have ha := Nat.div_add_mod a b
  have hc := Nat.div_add_mod c d
  rw [roundDiv, roundDiv]
  generalize a / b = q at hfloor ha ⊢
  generalize c / d = q' at hfloor hc ⊢
  generalize a % b = r at ha ⊢
  generalize c % d = r' at hc ⊢
  rcases hfloor.lt_or_eq with hlt | rfl
  · split_ifs <;> omega
  · -- The whole parts agree, so the remainders decide, and an exact half goes the same way.
    have hrest : r * d ≤ r' * b := by nlinarith
    simp only [Bool.or_eq_true, Bool.and_eq_true, decide_eq_true_eq, beq_iff_eq]
    split_ifs with hup hup'
    · exact le_rfl
    · exfalso
      rw [not_or, not_lt] at hup'
      rcases hup with hmore | ⟨hhalf, hodd⟩
      · nlinarith
      · have hequal : 2 * r' = d := by nlinarith
        exact hup'.2 ⟨hequal, hodd⟩
    · exact Nat.le_succ q
    · exact le_rfl

/-! ## Quotients in units of a power of two -/

/-- A quotient in units of a power of two, as a quotient of natural numbers. -/
def scaled (numerator denominator : Nat) (exponent : Int) : Nat × Nat :=
  if 0 ≤ exponent then (numerator, denominator * Nat.pow 2 exponent.toNat)
  else (numerator * Nat.pow 2 (-exponent).toNat, denominator)

variable {n d : Nat}

/-- The denominator of a scaled quotient is positive. -/
theorem scaled_snd_pos (hd : 0 < d) (exponent : Int) : 0 < (scaled n d exponent).2 := by
  rw [scaled]
  split
  · exact Nat.mul_pos hd (Nat.two_pow_pos _)
  · exact hd

/-- Scaling a quotient divides it by the power of two. -/
theorem scaled_eq (hd : 0 < d) (exponent : Int) :
    ((scaled n d exponent).1 : ℚ) / (scaled n d exponent).2 = n / d / 2 ^ exponent := by
  have hd' : (d : ℚ) ≠ 0 := by exact_mod_cast hd.ne'
  rw [scaled]
  split
  · rename_i hexponent
    have hpower : (2 : ℚ) ^ exponent = 2 ^ exponent.toNat := by
      conv => lhs; rw [← Int.toNat_of_nonneg hexponent]
      exact zpow_natCast _ _
    simp only [Nat.pow_eq, Nat.cast_mul, Nat.cast_pow, Nat.cast_ofNat, hpower]
    rw [div_div]
  · rename_i hexponent
    have hpower : (2 : ℚ) ^ exponent = (2 ^ (-exponent).toNat)⁻¹ := by
      have hneg : exponent = -((-exponent).toNat : Int) := by omega
      conv => lhs; rw [hneg]
      rw [zpow_neg, zpow_natCast]
    simp only [Nat.pow_eq, Nat.cast_mul, Nat.cast_pow, Nat.cast_ofNat, hpower]
    field_simp

/-- The test of a power of two compares it with the quotient. -/
theorem scaled_snd_le_fst_iff (hd : 0 < d) (exponent : Int) :
    (scaled n d exponent).2 ≤ (scaled n d exponent).1 ↔ (2 : ℚ) ^ exponent ≤ n / d := by
  have hpos : (0 : ℚ) < (scaled n d exponent).2 := by exact_mod_cast scaled_snd_pos hd exponent
  have hpower : (0 : ℚ) < 2 ^ exponent := zpow_pos two_pos exponent
  rw [← one_le_div hpower, ← scaled_eq hd, one_le_div hpos, Nat.cast_le]

/-- A power of two that is `k` steps further. -/
theorem two_zpow_add (exponent : Int) (k : Nat) :
    (2 : ℚ) ^ (exponent + k) = 2 ^ k * 2 ^ exponent := by
  rw [add_comm, zpow_add₀ two_ne_zero, zpow_natCast]

/-- The binary logarithm is the difference of the logarithms, or one less. -/
theorem floor_log2_eq (n d : Nat) :
    floorLog2 n d =
      if (scaled n d (n.log2 - d.log2)).2 ≤ (scaled n d (n.log2 - d.log2)).1 then
        (n.log2 - d.log2 : Int)
      else n.log2 - d.log2 - 1 := by
  rw [floorLog2, scaled]
  by_cases hguess : (0 : Int) ≤ n.log2 - d.log2
  · simp only [if_pos hguess]
  · simp only [if_neg hguess]

/-- A positive quotient lies between two powers of two that follow each other. -/
theorem floor_log2_bounds (hn : 0 < n) (hd : 0 < d) :
    (2 : ℚ) ^ floorLog2 n d ≤ n / d ∧ (n : ℚ) / d < 2 ^ (floorLog2 n d + 1) := by
  have hnlow : ((2 ^ n.log2 : Nat) : ℚ) ≤ n := by exact_mod_cast Nat.log2_self_le hn.ne'
  have hnhigh : (n : ℚ) < (2 ^ (n.log2 + 1) : Nat) := by exact_mod_cast Nat.lt_log2_self
  have hdlow : ((2 ^ d.log2 : Nat) : ℚ) ≤ d := by exact_mod_cast Nat.log2_self_le hd.ne'
  have hdhigh : (d : ℚ) < (2 ^ (d.log2 + 1) : Nat) := by exact_mod_cast Nat.lt_log2_self
  have hd' : (0 : ℚ) < d := by exact_mod_cast hd
  push_cast at hnlow hnhigh hdlow hdhigh
  have hlow : (2 : ℚ) ^ ((n.log2 : Int) - d.log2 - 1) ≤ n / d := by
    rw [le_div_iff₀ hd']
    calc (2 : ℚ) ^ ((n.log2 : Int) - d.log2 - 1) * d
        ≤ 2 ^ ((n.log2 : Int) - d.log2 - 1) * 2 ^ (d.log2 + 1) := by gcongr
      _ = 2 ^ n.log2 := by
          rw [mul_comm, ← two_zpow_add, ← zpow_natCast]
          congr 1
          push_cast
          ring
      _ ≤ n := hnlow
  have hhigh : (n : ℚ) / d < 2 ^ ((n.log2 : Int) - d.log2 + 1) := by
    rw [div_lt_iff₀ hd']
    calc (n : ℚ) < 2 ^ (n.log2 + 1) := hnhigh
      _ = 2 ^ ((n.log2 : Int) - d.log2 + 1) * 2 ^ d.log2 := by
          rw [mul_comm, ← two_zpow_add, ← zpow_natCast]
          congr 1
          push_cast
          ring
      _ ≤ 2 ^ ((n.log2 : Int) - d.log2 + 1) * d := by gcongr
  rw [floor_log2_eq]
  split
  · rename_i hreached
    exact ⟨(scaled_snd_le_fst_iff hd _).1 hreached, hhigh⟩
  · rename_i hmissed
    rw [scaled_snd_le_fst_iff hd, not_le] at hmissed
    exact ⟨hlow, by rwa [sub_add_cancel]⟩

/-- A greater quotient has no smaller binary logarithm. -/
theorem floor_log2_le_floor_log2 {m e : Nat} (hn : 0 < n) (hd : 0 < d) (hm : 0 < m) (he : 0 < e)
    (h : (n : ℚ) / d ≤ m / e) : floorLog2 n d ≤ floorLog2 m e := by
  have hpowers : (2 : ℚ) ^ floorLog2 n d < 2 ^ (floorLog2 m e + 1) :=
    ((floor_log2_bounds hn hd).1.trans h).trans_lt (floor_log2_bounds hm he).2
  have hexponents := (zpow_lt_zpow_iff_right₀ one_lt_two).1 hpowers
  omega

/-! ## Rounded quotients -/

/-- The power of two that a quotient is rounded to a multiple of. -/
def exponentOf (n d : Nat) : Int :=
  max (floorLog2 n d - 52) (-1074)

/-- The significand that a quotient is rounded to. -/
def significandOf (n d : Nat) : Nat :=
  roundDiv (scaled n d (exponentOf n d)).1 (scaled n d (exponentOf n d)).2

/-- What a quotient is rounded to, in units of the smallest positive number. -/
def unitsOf (n d : Nat) : Nat :=
  significandOf n d * 2 ^ (exponentOf n d + 1074).toNat

/-- The units that the greatest number and a half of its last place reach. -/
def unitsLimit : Nat :=
  2 ^ 2098

/-- The limit is positive. -/
theorem units_limit_pos : 0 < unitsLimit := by
  rw [unitsLimit]
  positivity

/-- A significand has at most 53 bits, or is the next power of two. -/
theorem significand_of_le (hn : 0 < n) (hd : 0 < d) : significandOf n d ≤ 2 ^ 53 := by
  have hexponent : floorLog2 n d + 1 ≤ exponentOf n d + 53 := by
    have hmax : floorLog2 n d - 52 ≤ exponentOf n d := le_max_left ..
    omega
  have hquotient : (n : ℚ) / d / 2 ^ exponentOf n d ≤ 2 ^ 53 := by
    rw [div_le_iff₀ (zpow_pos two_pos _)]
    calc (n : ℚ) / d ≤ 2 ^ (floorLog2 n d + 1) := (floor_log2_bounds hn hd).2.le
      _ ≤ 2 ^ (exponentOf n d + 53) := zpow_le_zpow_right₀ one_le_two hexponent
      _ = 2 ^ 53 * 2 ^ exponentOf n d := two_zpow_add _ 53
  calc significandOf n d ≤ roundDiv (2 ^ 53) 1 := by
        refine round_div_le_round_div (scaled_snd_pos hd _) one_pos ?_
        rw [scaled_eq hd, Nat.cast_pow, Nat.cast_one, div_one]
        exact hquotient
    _ = 2 ^ 53 := round_div_one _

/-- A significand has 53 bits unless the power of two is the least one. -/
theorem le_significand_of (hn : 0 < n) (hd : 0 < d) (h : -1074 < exponentOf n d) :
    2 ^ 52 ≤ significandOf n d := by
  have hexponent : exponentOf n d + 52 = floorLog2 n d := by
    have hmax : exponentOf n d = max (floorLog2 n d - 52) (-1074) := rfl
    omega
  have hquotient : (2 : ℚ) ^ 52 ≤ n / d / 2 ^ exponentOf n d := by
    rw [le_div_iff₀ (zpow_pos two_pos _)]
    calc (2 : ℚ) ^ 52 * 2 ^ exponentOf n d = 2 ^ (exponentOf n d + 52) :=
          (two_zpow_add _ 52).symm
      _ = 2 ^ floorLog2 n d := by rw [hexponent]
      _ ≤ n / d := (floor_log2_bounds hn hd).1
  calc 2 ^ 52 = roundDiv (2 ^ 52) 1 := (round_div_one _).symm
    _ ≤ significandOf n d := by
        refine round_div_le_round_div one_pos (scaled_snd_pos hd _) ?_
        rw [scaled_eq hd, Nat.cast_pow, Nat.cast_one, div_one]
        exact hquotient

/-- A greater quotient is not rounded to less. -/
theorem units_of_le_units_of {m e : Nat} (hn : 0 < n) (hd : 0 < d) (hm : 0 < m) (he : 0 < e)
    (h : (n : ℚ) / d ≤ m / e) : unitsOf n d ≤ unitsOf m e := by
  have hlog := floor_log2_le_floor_log2 hn hd hm he h
  have hexponents : exponentOf n d ≤ exponentOf m e := max_le_max (by omega) le_rfl
  have hleast : -1074 ≤ exponentOf n d := le_max_right ..
  rcases hexponents.lt_or_eq with hlt | heq
  · -- The greater quotient fills its significand, and the smaller one at most reaches the next
    -- power.
    have hstep : (exponentOf n d + 1074).toNat + 1 ≤ (exponentOf m e + 1074).toNat := by omega
    calc unitsOf n d ≤ 2 ^ 53 * 2 ^ (exponentOf n d + 1074).toNat :=
          Nat.mul_le_mul_right _ (significand_of_le hn hd)
      _ = 2 ^ 52 * 2 ^ ((exponentOf n d + 1074).toNat + 1) := by ring
      _ ≤ 2 ^ 52 * 2 ^ (exponentOf m e + 1074).toNat :=
          Nat.mul_le_mul_left _ (Nat.pow_le_pow_right two_pos hstep)
      _ ≤ unitsOf m e := Nat.mul_le_mul_right _ (le_significand_of hm he (by omega))
  · have hsignificand : significandOf n d ≤ significandOf m e := by
      refine round_div_le_round_div (scaled_snd_pos hd _) (scaled_snd_pos he _) ?_
      rw [scaled_eq hd, scaled_eq he, heq]
      exact div_le_div_of_nonneg_right h (zpow_pos two_pos _).le
    rw [unitsOf, unitsOf, heq]
    exact Nat.mul_le_mul_right _ hsignificand

/-- The units stay below the limit if the power of two that is written does. -/
theorem units_of_lt_limit_iff (hn : 0 < n) (hd : 0 < d) :
    unitsOf n d < unitsLimit ↔
      (if significandOf n d = 2 ^ 53 then exponentOf n d + 1 else exponentOf n d) ≤ 971 := by
  have hle := significand_of_le hn hd
  have hleast : -1074 ≤ exponentOf n d := le_max_right ..
  have hlimit {k : Nat} : 2 ^ k < unitsLimit ↔ k < 2098 := by
    rw [unitsLimit, Nat.pow_lt_pow_iff_right one_lt_two]
  split
  · rename_i hnext
    rw [unitsOf, hnext, ← pow_add, hlimit]
    omega
  · rename_i hnext
    constructor
    · intro hlt
      by_contra hbeyond
      have hfilled := le_significand_of hn hd (by omega)
      have hreached : 2 ^ (52 + (exponentOf n d + 1074).toNat) ≤ unitsOf n d := by
        rw [pow_add]
        exact Nat.mul_le_mul_right _ hfilled
      have := hlimit.1 (hreached.trans_lt hlt)
      omega
    · intro hexponent
      calc unitsOf n d < 2 ^ 53 * 2 ^ (exponentOf n d + 1074).toNat :=
            Nat.mul_lt_mul_of_pos_right (lt_of_le_of_ne hle hnext) (Nat.two_pow_pos _)
        _ = 2 ^ (53 + (exponentOf n d + 1074).toNat) := (pow_add ..).symm
        _ ≤ unitsLimit := by
            rw [unitsLimit, Nat.pow_le_pow_iff_right one_lt_two]
            omega

/-- A positive quotient is rounded to its units, unless they reach the limit. -/
theorem of_ratio_eq (hn : 0 < n) (hd : 0 < d) :
    (ofRatio n d).map multiple = if unitsOf n d < unitsLimit then some (unitsOf n d) else none := by
  have hsignificand : (if 0 ≤ exponentOf n d then
      roundDiv n (d * Nat.pow 2 (exponentOf n d).toNat)
      else roundDiv (n * Nat.pow 2 (-exponentOf n d).toNat) d) = significandOf n d := by
    rw [significandOf, scaled]
    split <;> rfl
  have hexponent : max (floorLog2 n d - 52) (-1074) = exponentOf n d := rfl
  have hleast : -1074 ≤ exponentOf n d := le_max_right ..
  rw [ofRatio, if_neg hn.ne']
  simp only [hexponent, hsignificand, units_of_lt_limit_iff hn hd]
  have hnext : (0x20000000000000 : Nat) = 2 ^ 53 := rfl
  rw [hnext]
  by_cases hfull : significandOf n d = 2 ^ 53
  · simp only [if_pos hfull]
    split
    · rw [Option.map_some, multiple, unitsOf, hfull]
      have hpower : (exponentOf n d + 1 + 1074).toNat = (exponentOf n d + 1074).toNat + 1 := by
        omega
      simp only [hpower, Nat.pow_eq, pow_succ']
      ring_nf
    · rfl
  · simp only [if_neg hfull]
    split <;> rfl

/-- A number with at most 53 significant bits is rounded to itself. -/
theorem units_of_eq {m : Nat} {exponent : Int} (hn : 0 < n) (hd : 0 < d) (hm : m < 2 ^ 53)
    (hexponent : -1074 ≤ exponent) (h : (n : ℚ) / d = m * 2 ^ exponent) :
    unitsOf n d = m * 2 ^ (exponent + 1074).toNat := by
  have hleast : -1074 ≤ exponentOf n d := le_max_right ..
  -- The quotient is a multiple of the power of two that it is rounded to a multiple of.
  have hpowers : (2 : ℚ) ^ floorLog2 n d < 2 ^ (exponent + 53) := by
    calc (2 : ℚ) ^ floorLog2 n d ≤ m * 2 ^ exponent := h ▸ (floor_log2_bounds hn hd).1
      _ < 2 ^ 53 * 2 ^ exponent := by
          have hm' : (m : ℚ) < 2 ^ 53 := by exact_mod_cast hm
          exact mul_lt_mul_of_pos_right hm' (zpow_pos two_pos _)
      _ = 2 ^ (exponent + 53) := (two_zpow_add _ 53).symm
  have hlog := (zpow_lt_zpow_iff_right₀ one_lt_two).1 hpowers
  have hle : exponentOf n d ≤ exponent := max_le (by omega) hexponent
  have hquotient : ((scaled n d (exponentOf n d)).1 : ℚ) / (scaled n d (exponentOf n d)).2 =
      ((m * 2 ^ (exponent - exponentOf n d).toNat : Nat) : ℚ) / (1 : Nat) := by
    have hsplit : exponent = (exponent - exponentOf n d).toNat + exponentOf n d := by omega
    rw [scaled_eq hd, h, div_eq_iff (zpow_pos two_pos _).ne']
    conv => lhs; rw [hsplit, zpow_add₀ two_ne_zero, zpow_natCast]
    push_cast
    ring
  have hsignificand : significandOf n d = m * 2 ^ (exponent - exponentOf n d).toNat := by
    rw [← round_div_one (m * 2 ^ (exponent - exponentOf n d).toNat)]
    exact le_antisymm (round_div_le_round_div (scaled_snd_pos hd _) one_pos hquotient.le)
      (round_div_le_round_div one_pos (scaled_snd_pos hd _) hquotient.ge)
  have hsum : (exponent + 1074).toNat =
      (exponent - exponentOf n d).toNat + (exponentOf n d + 1074).toNat := by omega
  rw [unitsOf, hsignificand, hsum, pow_add, mul_assoc]

end CardCatalog.Number.Magnitude
