import CardCatalog.Proofs.Card.PrintedNumber
import CardCatalog.Proofs.Number.Shortest
import CardCatalog.Proofs.Query.NumberValue

/-!
# Whole numbers of cards in their spellings

A printed number may be spelled as an integer, as an integer with zeros behind the point, or as a text.
`CardRecord.ReadsAs` says that a card with a number in one spelling is read with a text for the number,
whatever else the card holds, however its keys are spelled, and with space anywhere between its parts.
Integers up to `2 ^ 53` and their decimal texts are read as the same text (`reads_as_int_text`). With
zeros behind the point they are if the digits and the zeros that fit 64 bits survive being rounded twice,
which they do not always (`zeros_change_whole_number`).
-/

namespace CardCatalog

open CardCatalog.Number CardCatalog.Text

namespace CardRecord

/-! ## Texts that are kept of numbers -/

/-- The text that is kept of an integer is its decimal text. -/
theorem text_or_number_integer (n : Int) :
    textOrNumber? (.number (.integer n)) = some (some (intText n)) := rfl

/-- The text that is kept of a binary64 number with the sign of an integer up to `2 ^ 53` is that of the
integer exactly if the number is the integer. -/
theorem text_of_real_eq_iff {n : Int} (hn : n.natAbs ≤ 2 ^ 53) {x : Magnitude}
    (hx : -1074 ≤ x.exponent) :
    (if x.isWhole then wholeText ⟨n < 0, x⟩ else (⟨n < 0, x⟩ : Binary64).text) = intText n ↔
      x.multiple = n.natAbs * Magnitude.unitsInOne := by
  have htruncate : (⟨n < 0, x⟩ : Binary64).truncate =
      if n < 0 then -(x.floor : Int) else x.floor := by
    simp only [Binary64.truncate, decide_eq_true_eq]
  rw [Magnitude.multiple_eq_iff hx]
  by_cases hwhole : x.isWhole = true
  · have hclamp : (Int64.ofIntClamp (⟨n < 0, x⟩ : Binary64).truncate).toInt = n ↔ x.floor = n.natAbs := by
      rw [Comparison.to_int_of_int_clamp, htruncate]
      split <;> omega
    rw [if_pos hwhole, wholeText, ← hclamp]
    exact ⟨fun h => ⟨hwhole, int_text_injective h⟩, fun h => by rw [h.2]⟩
  · rw [if_neg hwhole]
    exact ⟨fun h => absurd h (Binary64.text_ne_int_text _ n), fun h => absurd h.1 hwhole⟩

/-! ## Spellings -/

/-- What stands in the text of a card object around the value of a printed number: the other members, and
all space. -/
structure Surroundings where
  leading : Json.Space
  before : List Json.Member
  gaps : Json.Gaps
  after : List Json.Member
  trailing : Json.Space

/-- The text of a card object with a printed number in a spelling. -/
def cardText (around : Surroundings) (key : Json.KeyText) (spelling : String) : String :=
  String.ofList around.leading.chars ++
    Json.bracket "\x7b"
      (around.before.map Json.Member.code ++
        String.ofList (Json.memberChars around.gaps key spelling) :: around.after.map Json.Member.code)
      "\x7d" ++
    String.ofList around.trailing.chars

/-- A card with a printed number in this spelling is read with this text for the number, and otherwise
as with `null` for the number. -/
def ReadsAs (spelling text : String) : Prop :=
  ∀ number : PrintedNumber, ∀ key : Json.KeyText, key.key ∈ number.keys → ∀ around : Surroundings,
    parse? (cardText around key spelling) = (parse? (cardText around key "null")).map (number.put text)

/-- A card is read from the values of its members. -/
theorem parse_card_text_of {spelling : String} {value : Json} (h : Json.IsTextOf 2 value spelling)
    (around : Surroundings) (key : Json.KeyText) :
    parse? (cardText around key spelling) =
      ofJson? (.object (around.before.map Json.Member.entry ++
        (key.key, value) :: around.after.map Json.Member.entry)) := by
  obtain ⟨leading, before, gaps, after, trailing⟩ := around
  have htext : cardText ⟨leading, before, gaps, after, trailing⟩ key spelling =
      Json.objectText leading (before ++ ⟨gaps, key, spelling, value, h⟩ :: after) trailing := by
    rw [cardText, Json.objectText, List.map_append, List.map_cons]
    rfl
  have hread : Json.parse? (Json.objectText leading (before ++ ⟨gaps, key, spelling, value, h⟩ :: after)
      trailing) = some (.object ((before ++ ⟨gaps, key, spelling, value, h⟩ :: after).map
        Json.Member.entry)) := by
    cases before with
    | nil => exact Json.parse_object_text _ _ _ _
    | cons member before => exact Json.parse_object_text _ _ _ _
  rw [parse?, htext, hread, List.map_append, List.map_cons]
  rfl

/-- The text `null` is one of `null`. -/
theorem is_text_of_null (depth : Nat) : Json.IsTextOf depth .null "null" := by
  have hflat : Json.IsTextual 0 .null := trivial
  exact (hflat.read_back_flat depth).is_text_of

/-- A spelling is read as the text that is kept of its value. -/
theorem ReadsAs.of_value {spelling text : String} {value : Json} (hvalue : Json.IsTextOf 2 value spelling)
    (htext : textOrNumber? value = some (some text)) : ReadsAs spelling text := by
  intro number key hkey around
  rw [parse_card_text_of hvalue, parse_card_text_of (is_text_of_null 2)]
  exact of_json_put hkey htext _ _

/-- A card with an id, a name, a set and a rarity, written without space. -/
def plainSurroundings : Surroundings :=
  let member (key text : String) : Json.Member :=
    .ofReadBack key (Json.IsTextual.read_back_flat (Json.is_textual_text 0 text) 2)
  ⟨.none, [member "id" "00000000-0000-0000-0000-000000000000", member "name" "", member "set" "",
    member "rarity" ""], .none, [], .none⟩

/-- Some card is read from the plain members. -/
theorem exists_parse_plain_surroundings :
    ∃ card, parse? (cardText plainSurroundings (.quoted "power") "null") = some card := by
  rw [parse_card_text_of (is_text_of_null 2)]
  refine Option.isSome_iff_exists.1 ?_
  decide +kernel

/-- A spelling is read as one text only. -/
theorem ReadsAs.unique {spelling text other : String} (h : ReadsAs spelling text)
    (h' : ReadsAs spelling other) : text = other := by
  have hkey : (Json.KeyText.quoted "power").key ∈ PrintedNumber.power.keys := List.mem_cons_self
  obtain ⟨card, hcard⟩ := exists_parse_plain_surroundings
  have hread := h .power (.quoted "power") hkey plainSurroundings
  rw [h' .power (.quoted "power") hkey plainSurroundings, hcard] at hread
  have hput := congrArg (PrintedNumber.get? .power) (Option.some.inj hread)
  rw [PrintedNumber.get_put, PrintedNumber.get_put] at hput
  exact (Option.some.inj hput).symm

/-- An integer with a point and zeros behind it. -/
def zerosText (n : Int) (zeros : Nat) : String :=
  intText n ++ "." ++ String.ofList (List.replicate zeros '0')

/-- An integer of 64 bits is read as its decimal text. -/
theorem ReadsAs.integer {n : Int} (hn : n.natAbs ≤ 2 ^ 53) : ReadsAs (intText n) (intText n) := by
  have hvalue := WholeLiteral.value_of_no_zeros ⟨n, 0⟩ rfl (by simp only; omega)
    (by simp only [Numeral.maxSignificand]; omega)
  have htext := WholeLiteral.is_text_of ⟨n, 0⟩ 2
  rw [WholeLiteral.text_of_no_zeros, Json.ofNumeral, hvalue] at htext
  exact .of_value htext (text_or_number_integer n)

/-- A text is read as itself. -/
theorem ReadsAs.quote (text : String) : ReadsAs (Json.quote text) text := by
  have hflat := Json.is_textual_text 0 text
  exact .of_value (hflat.read_back_flat 2).is_text_of rfl

/-- An integer with zeros behind the point is read as some text. It is the decimal text of the integer
exactly if the integer survives the zeros that are kept. -/
theorem exists_reads_as_of_zeros {n : Int} (hn : n.natAbs ≤ 2 ^ 53) {zeros : Nat} (hzeros : 0 < zeros) :
    ∃ text, ReadsAs (zerosText n zeros) text ∧
      (text = intText n ↔ Magnitude.SurvivesZeros n.natAbs (Numeral.keptZeros n.natAbs zeros)) := by
  obtain ⟨x, hvalue, hunits, hexponent⟩ := WholeLiteral.exists_value_of_zeros ⟨n, zeros⟩ hzeros
    (by simp only [Numeral.maxSignificand]; omega)
  have htext := WholeLiteral.is_text_of ⟨n, zeros⟩ 2
  rw [WholeLiteral.text_of_zeros n hzeros, Json.ofNumeral, hvalue] at htext
  refine ⟨_, .of_value htext rfl, ?_⟩
  rw [Magnitude.SurvivesZeros, ← hunits]
  exact text_of_real_eq_iff hn hexponent

/-- An integer up to `2 ^ 53` and its decimal text in quotes are read alike, as the decimal text. With
zeros behind the point it is read as some text. This is the decimal text exactly if the integer survives
being rounded together with the zeros that fit 64 bits and divided by their power of ten, and it always
does as long as its product with the power of five has at most 53 bits. -/
theorem reads_as_int_text (n : Int) (hn : n.natAbs ≤ 2 ^ 53) :
    ReadsAs (intText n) (intText n) ∧ ReadsAs (Json.quote (intText n)) (intText n) ∧
      ∀ zeros, 0 < zeros →
        (∃ text, ReadsAs (zerosText n zeros) text) ∧
        (ReadsAs (zerosText n zeros) (intText n) ↔
          Magnitude.SurvivesZeros n.natAbs (Numeral.keptZeros n.natAbs zeros)) ∧
        (n.natAbs * 5 ^ min zeros 10 < 2 ^ 53 → ReadsAs (zerosText n zeros) (intText n)) := by
  refine ⟨.integer hn, .quote _, fun zeros hzeros => ?_⟩
  obtain ⟨text, hread, htext⟩ := exists_reads_as_of_zeros hn hzeros
  have hiff : ReadsAs (zerosText n zeros) (intText n) ↔
      Magnitude.SurvivesZeros n.natAbs (Numeral.keptZeros n.natAbs zeros) := by
    rw [← htext]
    exact ⟨fun h => hread.unique h, fun h => h ▸ hread⟩
  have hfits : n.natAbs ≤ Numeral.maxSignificand := hn.trans (by decide)
  exact ⟨⟨text, hread⟩, hiff, fun h => hiff.2 (Numeral.survives_kept_zeros hfits h)⟩

/-- Nine zeros behind the point are harmless for an integer that ten zeros change. -/
theorem reads_as_int_text_nine_zeros :
    (922337205 : Int).natAbs ≤ 2 ^ 53 ∧ ReadsAs "922337205" "922337205" ∧
      ReadsAs "\x22922337205\x22" "922337205" ∧ ReadsAs "922337205.000000000" "922337205" := by
  have hn : (922337205 : Int).natAbs ≤ 2 ^ 53 := by decide
  have hinteger : intText 922337205 = "922337205" := by decide +kernel
  have hquote : Json.quote "922337205" = "\x22922337205\x22" := by decide +kernel
  have hnine : zerosText 922337205 9 = "922337205.000000000" := by decide +kernel
  obtain ⟨hread, hread', hzeros⟩ := reads_as_int_text 922337205 hn
  have hread'' := (hzeros 9 (by decide)).2.2 (by decide)
  rw [hinteger] at hread hread' hread''
  rw [hquote] at hread'
  rw [hnine] at hread''
  exact ⟨hn, hread, hread', hread''⟩

/-- Ten zeros behind the point change an integer of nine digits. Digits and zeros together are rounded down
to a multiple of 2048, and their quotient by the power of ten is rounded to a number below the integer. -/
theorem zeros_change_whole_number :
    zerosText 922337205 10 = "922337205.0000000000" ∧
      ReadsAs (zerosText 922337205 10) "922337204.9999999" ∧
      ¬ ReadsAs (zerosText 922337205 10) (intText 922337205) := by
  have hdigits : Numeral.appendDigits 0 0 (natDigits 922337205) = (922337205, 9) := by decide +kernel
  have hzeros : Numeral.appendDigits 922337205 0 (List.replicate 10 '0') = (9223372050000000000, 10) := by
    decide +kernel
  have hrounded : Magnitude.ofRatio 9223372050000000000 1 = some ⟨4503599633789062, 11⟩ := by
    decide +kernel
  have hdown : Numeral.scaleDown ⟨4503599633789062, 11⟩ 10 = some ⟨7737125256560639, -23⟩ := by
    rw [Numeral.scaleDown]
    decide +kernel
  have hvalue : (WholeLiteral.numeral ⟨922337205, 10⟩).value? =
      some (.real ⟨false, ⟨7737125256560639, -23⟩⟩) := by
    have hwhole : (922337205 : Int).natAbs = 922337205 := rfl
    have hlength : (natDigits 922337205).length - 9 = 0 := by decide +kernel
    have hscale : Numeral.scale ⟨4503599633789062, 11⟩ (((0 : Nat) : Int) - (10 : Nat)) =
        some ⟨7737125256560639, -23⟩ := hdown
    rw [Numeral.value?]
    simp only [WholeLiteral.numeral, hwhole, hdigits, hzeros, hlength, Numeral.magnitude?, hrounded, hscale,
      Option.bind_eq_bind, Option.bind_some]
    rfl
  have hread : ReadsAs (zerosText 922337205 10) "922337204.9999999" := by
    have htext := WholeLiteral.is_text_of ⟨922337205, 10⟩ 2
    rw [WholeLiteral.text_of_zeros _ (by decide), Json.ofNumeral, hvalue] at htext
    refine .of_value htext ?_
    decide +kernel
  refine ⟨by decide +kernel, hread, fun h => ?_⟩
  exact absurd (hread.unique h) (by decide +kernel)

end CardRecord

end CardCatalog
