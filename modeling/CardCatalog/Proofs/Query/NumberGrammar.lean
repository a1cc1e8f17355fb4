import CardCatalog.Proofs.Number.SignedNumeral
import CardCatalog.Proofs.Query.NumberValue
import CardCatalog.Proofs.Query.TermGrammar

/-!
# The grammar of numeric values

`ComparesWith` says what the value of a numeric term means without saying how it is read: which
comparison its symbol names, and which text stands behind the symbol. Every value is read as the grammar
says, and every signed numeral behind a symbol as its value in the signed 64-bit range, with any white
space around either (`number_values_read_exactly`). No numeral starts with an equals sign, so the symbol in
front of one is the longest that stands there.
-/

namespace CardCatalog

open CardCatalog.Text CardCatalog.Number

/-! ## Numbers -/

namespace Number

/-- An integer, or the nearer end of the signed 64-bit range if it is not in it. -/
def clampedToInt64 (n : Int) : Int :=
  max (-2 ^ 63) (min n (2 ^ 63 - 1))

/-- A text is read as an integer if and only if it is a signed numeral. -/
theorem parse_integer_is_some_iff (text : String) :
    (parseInteger text).isSome = true ↔ ∃ numeral : SignedNumeral, numeral.text = text := by
  rw [parse_integer_eq, Option.isSome_map, Option.isSome_iff_exists]
  constructor
  · rintro ⟨n, hn⟩
    obtain ⟨numeral, hchars, _⟩ := signed_decimal_eq_some_iff.1 hn
    exact ⟨numeral, by rw [SignedNumeral.text, hchars, String.ofList_toList]⟩
  · rintro ⟨numeral, rfl⟩
    rw [SignedNumeral.text, String.toList_ofList]
    exact ⟨numeral.value, signed_decimal_eq_some_iff.2 ⟨numeral, rfl, rfl⟩⟩

namespace SignedNumeral

/-- A numeral is read as its value, clamped to 64 bits. -/
theorem parse_integer_text (numeral : SignedNumeral) :
    ∃ number, parseInteger numeral.text = some number ∧
      number.toInt = clampedToInt64 numeral.value := by
  refine ⟨Int64.ofIntClamp numeral.value, ?_, Comparison.to_int_of_int_clamp _⟩
  rw [parse_integer_eq, text, String.toList_ofList, signed_decimal_chars]
  rfl

/-- A numeral has no white space. -/
theorem not_white_space (numeral : SignedNumeral) {c : Char} (h : c ∈ numeral.chars) :
    isWhiteSpace c = false := by
  rcases numeral.is_sign_or_digit h with ⟨sign, rfl⟩ | hdigit
  · cases sign <;> decide
  · exact not_white_space_of_decimal_digit (is_decimal_digit_of_ascii hdigit)

/-- A text with a numeral at its end does not end in white space. -/
theorem last_append_not_white_space (numeral : SignedNumeral) (cs : List Char) :
    ∀ c ∈ (cs ++ numeral.chars).getLast?, isWhiteSpace c = false := by
  intro c hc
  rw [List.getLast?_append_of_ne_nil _ numeral.chars_ne_nil] at hc
  exact numeral.not_white_space (List.mem_of_getLast? hc)

/-- A numeral behind white space is what is left without it. -/
theorem is_trimmed_chars (numeral : SignedNumeral) {before : List Char} (hbefore : IsBlank before) :
    IsTrimmed (before ++ numeral.chars) numeral.chars := by
  refine ⟨⟨before, [], hbefore, by simp [IsBlank], by rw [List.append_nil]⟩, ?_, ?_⟩
  · exact fun c hc => numeral.not_white_space (List.mem_of_head? hc)
  · exact numeral.last_append_not_white_space []

/-- A numeral has no equals sign. -/
theorem ne_equals (numeral : SignedNumeral) {c : Char} (h : c ∈ numeral.chars) : c ≠ '=' := by
  rintro rfl
  rcases numeral.is_sign_or_digit h with ⟨sign, hsign⟩ | hdigit
  · cases sign <;> exact absurd hsign (by decide)
  · exact absurd hdigit (by decide)

end SignedNumeral

end Number

/-! ## Symbols -/

namespace Comparison

/-- A text names a comparison in front of a rest: the comparison with the longest symbol that the text
starts with. A text that starts with no symbol names equality in front of all of it. -/
inductive Names (cs : List Char) : Comparison → List Char → Prop where
  | symbol (comparison : Comparison) (rest : List Char) (hcs : cs = comparison.symbol.toList ++ rest)
      (longest : ∀ other : Comparison, other.symbol.toList <+: cs →
        other.symbol.length ≤ comparison.symbol.length) : Names cs comparison rest
  | unnamed (hnone : ∀ other : Comparison, ¬ other.symbol.toList <+: cs) : Names cs .eq cs

/-- A text names one comparison at most. -/
theorem Names.unique {cs rest otherRest : List Char} {comparison other : Comparison}
    (h : Names cs comparison rest) (hother : Names cs other otherRest) :
    comparison = other ∧ rest = otherRest := by
  cases h with
  | symbol _ _ hcs longest =>
      have hprefix : comparison.symbol.toList <+: cs := ⟨rest, hcs.symm⟩
      cases hother with
      | symbol _ _ hcs' longest' =>
          have hprefix' : other.symbol.toList <+: cs := ⟨otherRest, hcs'.symm⟩
          have hlength := Nat.le_antisymm (longest' _ hprefix) (longest _ hprefix')
          obtain rfl := eq_of_symbols_prefix hprefix hprefix' hlength
          exact ⟨rfl, List.append_cancel_left (hcs.symm.trans hcs')⟩
      | unnamed hnone => exact absurd hprefix (hnone _)
  | unnamed hnone =>
      cases hother with
      | symbol _ _ hcs' => exact absurd ⟨otherRest, hcs'.symm⟩ (hnone _)
      | unnamed => exact ⟨rfl, rfl⟩

/-- The comparison that is read is the one that the text names. -/
theorem names_read_front (cs : List Char) :
    Names cs ((readFront? cs).getD (.eq, cs)).1 ((readFront? cs).getD (.eq, cs)).2 := by
  cases hread : readFront? cs with
  | none =>
      refine .unnamed fun other hother => ?_
      obtain ⟨rest, hrest⟩ := hother
      have hnone := List.findSome?_eq_none_iff.1 hread other (mem_longest_first other)
      rw [strip_eq_some_iff.2 hrest.symm] at hnone
      exact absurd hnone (by simp)
  | some found =>
      obtain ⟨comparison, hfound, hlongest⟩ := longest_of_find_some hread
      obtain ⟨rest, hstrip, rfl⟩ := Option.map_eq_some_iff.1 hfound
      refine .symbol comparison rest (strip_eq_some_iff.1 hstrip) fun other hother => ?_
      obtain ⟨otherRest, hrest⟩ := hother
      refine hlongest other ?_
      rw [strip_eq_some_iff.2 hrest.symm]
      rfl

/-- A text names the comparison that is read, in front of what is left, and no other. -/
theorem names_iff {cs rest : List Char} {comparison : Comparison} :
    Names cs comparison rest ↔ (readFront? cs).getD (.eq, cs) = (comparison, rest) := by
  have hnames := names_read_front cs
  constructor
  · intro h
    exact Prod.ext_iff.2 (hnames.unique h)
  · intro h
    rw [h] at hnames
    exact hnames

/-- A comparison is named in front of a rest that does not make its symbol a longer one. -/
theorem names_append (comparison : Comparison) {cs : List Char} (hequals : cs.head? ≠ some '=') :
    Names (comparison.symbol.toList ++ cs) comparison cs := by
  rw [names_iff, comparison.read_front_append hequals]
  rfl

/-- No symbol starts with white space. -/
theorem head_append_not_white_space (comparison : Comparison) (cs : List Char) :
    ∀ c ∈ (comparison.symbol.toList ++ cs).head?, isWhiteSpace c = false := by
  intro c hc
  rw [List.head?_append_of_ne_nil _ comparison.symbol_ne_nil] at hc
  exact comparison.not_white_space_symbol c (List.mem_of_head? hc)

end Comparison

/-! ## Values -/

/-- A value compares with a text: without the white space at its ends it names the comparison in front of
a rest, and the rest without the white space at its ends is the text. -/
def ComparesWith (value : String) (comparison : Comparison) (text : String) : Prop :=
  ∃ inner rest, IsTrimmed value.toList inner ∧ comparison.Names inner rest ∧
    IsTrimmed rest text.toList

/-- The comparison that a value names is read, and the integer of what stands behind it. -/
theorem parse_comparison_of_names {value : String} {comparison : Comparison} {rest : List Char}
    (h : comparison.Names (trim value.toList) rest) :
    parseComparison value = (comparison, parseInteger (String.ofList (trim rest))) := by
  rw [parseComparison, Comparison.names_iff.1 h]

/-- A value is read as the comparison that the grammar gives it and the integer of the text behind it. -/
theorem parse_comparison_eq_iff {value : String} {comparison : Comparison} {number : Option Int64} :
    parseComparison value = (comparison, number) ↔
      ∃ text, ComparesWith value comparison text ∧ parseInteger text = number := by
  constructor
  · have hnames := Comparison.names_read_front (trim value.toList)
    rw [parse_comparison_of_names hnames]
    intro h
    obtain ⟨rfl, rfl⟩ := Prod.mk.inj h
    refine ⟨_, ⟨_, _, is_trimmed_trim _, hnames, ?_⟩, rfl⟩
    rw [String.toList_ofList]
    exact is_trimmed_trim _
  · rintro ⟨text, ⟨inner, rest, hinner, hnames, htext⟩, rfl⟩
    rw [← hinner.trim_eq] at hnames
    rw [parse_comparison_of_names hnames, htext.trim_eq, String.ofList_toList]

/-- A value with a symbol and a numeral behind it compares with the numeral, with any white space around
the two. -/
theorem compares_with_numeral (comparison : Comparison) (numeral : SignedNumeral)
    {before between after : String} (hbefore : IsBlank before.toList) (hbetween : IsBlank between.toList)
    (hafter : IsBlank after.toList) :
    ComparesWith (before ++ comparison.symbol ++ between ++ numeral.text ++ after) comparison
      numeral.text := by
  -- The rest may start with white space, a sign or a digit.
  have hequals : (between.toList ++ numeral.chars).head? ≠ some '=' := by
    intro hhead
    rcases List.mem_append.1 (List.mem_of_head? hhead) with hblank | hnumeral
    · exact absurd (hbetween _ hblank) (by decide)
    · exact numeral.ne_equals hnumeral rfl
  refine ⟨comparison.symbol.toList ++ (between.toList ++ numeral.chars), between.toList ++ numeral.chars,
    ⟨⟨before.toList, after.toList, hbefore, hafter, ?_⟩, ?_, ?_⟩, comparison.names_append hequals, ?_⟩
  · simp only [String.toList_append, SignedNumeral.text, String.toList_ofList, List.append_assoc]
  · exact comparison.head_append_not_white_space _
  · rw [← List.append_assoc]
    exact numeral.last_append_not_white_space _
  · rw [SignedNumeral.text, String.toList_ofList]
    exact numeral.is_trimmed_chars hbetween

/-- Numeric values are read exactly. A text is read as an integer if and only if it is a signed numeral, and
then as its value clamped to the signed 64-bit range. A value is read as the comparison with the longest
symbol that it starts with, and the integer of what stands behind it, apart from white space at the ends of
either; so a comparison and a numeral are read with any white space around them. -/
theorem number_values_read_exactly :
    (∀ text : String, (parseInteger text).isSome = true ↔
      ∃ numeral : SignedNumeral, numeral.text = text) ∧
    (∀ numeral : SignedNumeral, ∃ number, parseInteger numeral.text = some number ∧
      number.toInt = clampedToInt64 numeral.value) ∧
    (∀ (value : String) (comparison : Comparison) (number : Option Int64),
      parseComparison value = (comparison, number) ↔
        ∃ text, ComparesWith value comparison text ∧ parseInteger text = number) ∧
    ∀ (comparison : Comparison) (numeral : SignedNumeral) (before between after : String),
      IsBlank before.toList → IsBlank between.toList → IsBlank after.toList →
        ∃ number,
          parseComparison (before ++ comparison.symbol ++ between ++ numeral.text ++ after) =
            (comparison, some number) ∧
          number.toInt = clampedToInt64 numeral.value := by
  refine ⟨parse_integer_is_some_iff, SignedNumeral.parse_integer_text,
    fun _ _ _ => parse_comparison_eq_iff, ?_⟩
  intro comparison numeral before between after hbefore hbetween hafter
  obtain ⟨number, hparse, hnumber⟩ := numeral.parse_integer_text
  refine ⟨number, parse_comparison_eq_iff.2 ⟨numeral.text, ?_, hparse⟩, hnumber⟩
  exact compares_with_numeral comparison numeral hbefore hbetween hafter

/-- The numeral of `-(10 ^ 20 - 1)`, which is less than every 64-bit integer. -/
def Number.SignedNumeral.belowRange : SignedNumeral where
  sign := some .minus
  digits := List.replicate 20 '9'
  digits_ne_nil := List.cons_ne_nil _ _
  ascii := List.all_eq_true.1 (by decide)

/-- A bound below the signed 64-bit range is moved up to its end, with white space of several kinds around
the symbol and the numeral. -/
theorem number_values_read_exactly_below_range :
    IsBlank "\t".toList ∧ IsBlank "\u00a0 ".toList ∧ IsBlank "\n".toList ∧
      parseComparison "\t>=\u00a0 -99999999999999999999\n" = (.ge, some Int64.minValue) := by
  have hbefore : IsBlank "\t".toList := by decide
  have hbetween : IsBlank "\u00a0 ".toList := by decide
  have hafter : IsBlank "\n".toList := by decide
  obtain ⟨number, hparse, hnumber⟩ :=
    number_values_read_exactly.2.2.2 .ge .belowRange "\t" "\u00a0 " "\n" hbefore hbetween hafter
  have hmin : number = Int64.minValue := Int64.toInt_inj.1 (hnumber.trans (by decide))
  rw [hmin] at hparse
  exact ⟨hbefore, hbetween, hafter, hparse⟩

/-- White space within a symbol ends it, and a text with two signs is no numeral. -/
example : parseComparison "> =5" = (.gt, none) ∧ parseComparison ">=+-5" = (.ge, none) := by
  decide

end CardCatalog
