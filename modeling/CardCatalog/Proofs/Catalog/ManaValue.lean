import CardCatalog.Proofs.Catalog.DecimalOrder
import CardCatalog.Proofs.Query.NumberValue

/-!
# Mana values as numbers

A stored mana value stands for the number that its text spells, and for zero where the text is
absent or no number. Its place in the order by mana value is that of the number
(`StandsFor.order_key_le`), and tells the number if that is one of binary64
(`StandsFor.eq_of_order_key_eq`).
-/

namespace CardCatalog.StoredNumber

open CardCatalog.Text CardCatalog.Number

/-! ## Decimals as they are stored -/

/-- A decimal as a card prints it: an optional minus sign, digits, and a point with further digits
if there are any. -/
structure DecimalLiteral where
  negative : Bool
  whole : List Char
  fraction : List Char
  whole_ne_nil : whole ≠ []
  whole_ascii : ∀ c ∈ whole, isAsciiDigit c = true
  fraction_ascii : ∀ c ∈ fraction, isAsciiDigit c = true

namespace DecimalLiteral

variable (literal : DecimalLiteral)

/-- What follows the whole part of a decimal. -/
def tail : List Char :=
  if literal.fraction = [] then [] else '.' :: literal.fraction

/-- The text of a decimal. -/
def text : String :=
  String.ofList ((if literal.negative then ['-'] else []) ++ (literal.whole ++ literal.tail))

/-- The digits of a decimal, as a number. -/
def digits : Nat :=
  natOfDigits (literal.whole ++ literal.fraction)

/-- The number that a decimal stands for. -/
def value : ℚ :=
  (if literal.negative then -1 else 1) * (literal.digits * 10 ^ (-literal.fraction.length : Int))

end DecimalLiteral

/-- Digits are read up to a character that is neither a digit nor an underscore. -/
theorem read_digits_append {digits rest : List Char} (h : ∀ c ∈ digits, isAsciiDigit c = true)
    (hrest : ∀ c ∈ rest.head?, ¬ isAsciiDigit c = true) (hscore : rest.head? ≠ some '_') :
    readDigits isAsciiDigit (digits ++ rest) = some (digits, rest) := by
  induction digits with
  | nil =>
      rw [List.nil_append]
      unfold readDigits
      split
      · rfl
      · rw [if_neg (hrest _ rfl)]
      · rw [if_neg (hrest _ rfl)]
  | cons c digits ih =>
      obtain ⟨hc, hdigits⟩ := List.forall_mem_cons.1 h
      have hnext : ∀ cs, digits ++ rest ≠ '_' :: cs := by
        intro cs heq
        cases digits with
        | nil => exact hscore (by rw [← List.nil_append rest, heq]; rfl)
        | cons d digits =>
            obtain rfl : d = '_' := (List.cons.inj heq).1
            exact absurd (hdigits '_' (List.mem_cons_self ..)) (by decide)
      rw [List.cons_append, readDigits, if_pos hc, ih hdigits]
      · rfl
      · exact hnext

/-- A digit has no upper case. -/
theorem ascii_lower_of_digit {c : Char} (h : isAsciiDigit c = true) : asciiLower c = c := by
  rw [is_ascii_digit_iff] at h
  have hletter : ('A' ≤ c && c ≤ 'Z') = false := by
    rw [Bool.and_eq_false_iff, decide_eq_false_iff_not, Char.le_def, UInt32.le_iff_toNat_le]
    have hcode : ('A' : Char).val.toNat = 65 := rfl
    have hsame : c.val.toNat = c.toNat := rfl
    omega
  rw [asciiLower, hletter, if_neg Bool.false_ne_true]

/-- A digit is no space. -/
theorem is_ascii_space_of_digit {c : Char} (h : isAsciiDigit c = true) :
    isAsciiSpace c = false := by
  rw [is_ascii_digit_iff] at h
  simp only [isAsciiSpace, Bool.or_eq_false_iff, Bool.and_eq_false_iff, decide_eq_false_iff_not,
    beq_eq_false_iff_ne]
  omega

namespace DecimalLiteral

variable (literal : DecimalLiteral)

/-- A decimal consists of digits, but for its sign and its point. -/
theorem is_digit_or_point {c : Char} (h : c ∈ literal.whole ++ literal.tail) :
    isAsciiDigit c = true ∨ c = '.' := by
  rcases List.mem_append.1 h with hwhole | htail
  · exact .inl (literal.whole_ascii c hwhole)
  · rw [tail] at htail
    split at htail
    · cases htail
    · exact (List.mem_cons.1 htail).symm.imp_left (literal.fraction_ascii c)

/-- The whole part of a decimal ends where the point stands. -/
theorem read_whole :
    readDigits isAsciiDigit (literal.whole ++ literal.tail) =
      some (literal.whole, literal.tail) := by
  refine read_digits_append literal.whole_ascii ?_ ?_
  · intro c hc
    rw [tail] at hc
    split at hc
    · cases hc
    · obtain rfl := Option.some.inj hc
      decide
  · rw [tail]
    split <;> simp

/-- The fraction of a decimal ends with the text. -/
theorem read_fraction_tail :
    ∃ pointed, readFraction literal.tail = some (pointed, literal.fraction, []) := by
  rw [tail]
  split
  · rename_i hnone
    exact ⟨false, by rw [hnone]; rfl⟩
  · have hfraction :
        readDigits isAsciiDigit (literal.fraction ++ []) = some (literal.fraction, []) :=
      read_digits_append literal.fraction_ascii (by simp) (by simp)
    rw [List.append_nil] at hfraction
    exact ⟨true, by simp [readFraction, hfraction]⟩

/-- A decimal is read as its place in the order of numbers, after its sign. -/
theorem order_key_of_digits (negative : Bool) :
    orderKeyOf? negative (literal.whole ++ literal.tail) =
      some (.ofDecimal negative literal.digits (-literal.fraction.length)) := by
  obtain ⟨pointed, hfraction⟩ := literal.read_fraction_tail
  -- The words for what is no finite number all have the letter `n`.
  have hletter : 'n' ∉ ((literal.whole ++ literal.tail).reverse.dropWhile isAsciiSpace).reverse.map
      asciiLower := by
    intro hmem
    obtain ⟨c, hc, hlower⟩ := List.mem_map.1 hmem
    have hchar := literal.is_digit_or_point
      (List.mem_reverse.1 ((List.dropWhile_sublist _).subset (List.mem_reverse.1 hc)))
    rcases hchar with hdigit | rfl
    · rw [ascii_lower_of_digit hdigit] at hlower
      exact absurd hdigit (by rw [hlower]; decide)
    · exact absurd hlower (by decide)
  have hne (word : String) (h : 'n' ∈ word.toList) :
      ((literal.whole ++ literal.tail).reverse.dropWhile isAsciiSpace).reverse.map asciiLower ≠
        word.toList := fun heq => hletter (heq ▸ h)
  rw [orderKeyOf?, if_neg (not_or.2 ⟨hne _ (by decide), hne _ (by decide)⟩),
    if_neg (hne _ (by decide)), literal.read_whole]
  have hfilled : (literal.whole.isEmpty && literal.fraction.isEmpty) = false := by
    rw [List.isEmpty_eq_false_iff.2 literal.whole_ne_nil, Bool.false_and]
  have hpower : readPower [] = some (0, []) := rfl
  have hblank : isBlank [] = true := rfl
  simp only [bind, Option.bind, hfraction, hfilled, hpower, hblank, if_true, Bool.false_eq_true,
    if_false, zero_sub, digits]

end DecimalLiteral

/-- A decimal is read as its place in the order of numbers. -/
theorem to_order_key_text (literal : DecimalLiteral) :
    toOrderKey? literal.text =
      some (.ofDecimal literal.negative literal.digits (-literal.fraction.length)) := by
  obtain ⟨d, ds, hwhole⟩ := List.exists_cons_of_ne_nil literal.whole_ne_nil
  have hdigit : isAsciiDigit d = true :=
    literal.whole_ascii d (by rw [hwhole]; exact List.mem_cons_self ..)
  have hplus : d ≠ '+' := fun heq => absurd hdigit (by rw [heq]; decide)
  have hdash : d ≠ '-' := fun heq => absurd hdigit (by rw [heq]; decide)
  have hread := literal.order_key_of_digits literal.negative
  rw [toOrderKey?, DecimalLiteral.text, String.toList_ofList]
  cases hnegative : literal.negative with
  | true =>
      rw [hnegative] at hread
      exact hread
  | false =>
      rw [hnegative, hwhole] at hread
      rw [if_neg Bool.false_ne_true, List.nil_append, hwhole, List.cons_append,
        List.dropWhile_cons_of_neg (by simp [is_ascii_space_of_digit hdigit])]
      simpa [hplus, hdash] using hread

/-! ## Texts that stand for numbers -/

/-- The number that a stored mana value stands for: the value of a decimal, and zero where the
text is absent or no number. -/
inductive StandsFor : Option String → ℚ → Prop
  | absent : StandsFor none 0
  | noNumber {s : String} (h : toOrderKey? s = none) : StandsFor (some s) 0
  | decimal (literal : DecimalLiteral) : StandsFor (some literal.text) literal.value

variable {s t : Option String} {p q : ℚ}

/-- What stands for a number is placed as a decimal is. -/
theorem StandsFor.order_key_eq (h : StandsFor s p) :
    ∃ negative digits power, orderKey s = .ofDecimal negative digits power ∧
      p = decimalValue negative digits power := by
  have hzero : OrderKey.ofDecimal false 0 0 = .zero := rfl
  have hvalue : decimalValue false 0 0 = 0 := by simp [decimalValue]
  cases h with
  | absent => exact ⟨false, 0, 0, rfl, hvalue.symm⟩
  | noNumber h => exact ⟨false, 0, 0, by simp [orderKey, h, hzero], hvalue.symm⟩
  | decimal literal =>
      exact ⟨literal.negative, literal.digits, _, by simp [orderKey, to_order_key_text], rfl⟩

/-- What stands for a greater number is not placed before what stands for a smaller one. -/
theorem StandsFor.order_key_le (hs : StandsFor s p) (ht : StandsFor t q) (h : p ≤ q) :
    (orderKey s).le (orderKey t) = true := by
  obtain ⟨_, _, _, hkey, rfl⟩ := hs.order_key_eq
  obtain ⟨_, _, _, hkey', rfl⟩ := ht.order_key_eq
  rw [hkey, hkey']
  exact OrderKey.of_decimal_le h

/-- Different binary64 numbers have different places. -/
theorem StandsFor.eq_of_order_key_eq (hs : StandsFor s p) (ht : StandsFor t q) (hp : IsBinary64 p)
    (hq : IsBinary64 q) (h : orderKey s = orderKey t) : p = q := by
  obtain ⟨_, _, _, hkey, rfl⟩ := hs.order_key_eq
  obtain ⟨_, _, _, hkey', rfl⟩ := ht.order_key_eq
  obtain ⟨units, hplace, hunits⟩ := OrderKey.of_decimal_of_is_binary64 hp
  obtain ⟨units', hplace', hunits'⟩ := OrderKey.of_decimal_of_is_binary64 hq
  have hsame : units = units' := by
    rw [hkey, hkey', hplace, hplace'] at h
    exact congrArg OrderKey.units h
  have hscaled := hunits.symm.trans ((congrArg Int.cast hsame).trans hunits')
  exact mul_right_cancel₀ (zpow_pos two_pos _).ne' hscaled

end CardCatalog.StoredNumber
