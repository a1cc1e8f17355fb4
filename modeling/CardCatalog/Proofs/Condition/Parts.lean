import CardCatalog.Proofs.Number.Digits
import CardCatalog.Proofs.Text.Scan
import CardCatalog.Query.Condition
import Mathlib.Data.List.Basic

/-!
# Reading the parts of a condition

A condition is written from fixed texts, columns, literals, numbers and color lists. Each kind of part
has a reader here that takes it off the front of a text and gives back what follows, together with the
statement that it reads what `Predicate.condition` writes, whatever text follows that cannot belong
to the part.
-/

namespace CardCatalog.ConditionReader

open CardCatalog.Text CardCatalog.Number

/-! ## Fixed texts and words -/

/-- Take an expected text off the front. -/
def expect (expected : String) (cs : List Char) : Option (List Char) :=
  Comparison.stripFront? expected.toList cs

/-- The characters of column and function names. -/
def isNameChar (c : Char) : Bool :=
  isAsciiLetter c || c == '_'

/-- The name at the front of a text, which is empty when another character stands there. -/
def word (cs : List Char) : String :=
  String.ofList (cs.takeWhile isNameChar)

/-- The text does not go on with a name. -/
def EndsName (rest : List Char) : Prop :=
  ∀ c ∈ rest.head?, isNameChar c = false

theorem strip_front_append (expected rest : List Char) :
    Comparison.stripFront? expected (expected ++ rest) = some rest := by
  induction expected with
  | nil => rfl
  | cons c expected ih => simpa [Comparison.stripFront?] using ih

/-- An expected text that is there is taken off. -/
theorem expect_append (expected : String) (rest : List Char) :
    expect expected (expected.toList ++ rest) = some rest :=
  strip_front_append expected.toList rest

/-! ## Columns -/

/-- Read a column. -/
def readColumn (cs : List Char) : Option (Field × List Char) :=
  (Field.all.find? fun field => field.column == word cs).map (·, cs.dropWhile isNameChar)

/-- The name that a pattern search starts with. -/
theorem word_regexp_matches (tail : List Char) :
    word ("regexp_matches(".toList ++ tail) = "regexp_matches" :=
  rfl

/-- The name that an inclusion of colors starts with. -/
theorem word_list_has_all (tail : List Char) :
    word ("list_has_all(".toList ++ tail) = "list_has_all" :=
  rfl

/-- The name that a text in lower case starts with. -/
theorem word_lower (tail : List Char) : word ("lower(".toList ++ tail) = "lower" :=
  rfl

/-- The name that a text or a color list starts with. -/
theorem word_coalesce (tail : List Char) : word ("coalesce(".toList ++ tail) = "coalesce" :=
  rfl

/-- The name that an integer starts with. -/
theorem word_cast (tail : List Char) : word ("coalesce(TRY_CAST(".toList ++ tail) = "coalesce" :=
  rfl

/-- The word that a negation starts with. -/
theorem word_not (tail : List Char) : word ("NOT (".toList ++ tail) = "NOT" :=
  rfl

/-- No name stands before an opening parenthesis. -/
theorem word_parenthesis (tail : List Char) : word ("(".toList ++ tail) = "" :=
  rfl

/-- A text of name characters is the word at the front of what starts with it. -/
theorem word_append {text : String} {rest : List Char} (htext : text.toList.all isNameChar = true)
    (hrest : EndsName rest) : word (text.toList ++ rest) = text := by
  rw [word, take_while_append_of_all (List.all_eq_true.1 htext) hrest, String.ofList_toList]

/-- The name of a column consists of name characters. -/
theorem all_is_name_char_column (field : Field) : field.column.toList.all isNameChar = true := by
  cases field <;> rfl

/-- A column is read back. -/
theorem read_column_append {rest : List Char} (hrest : EndsName rest) (field : Field) :
    readColumn (field.column.toList ++ rest) = some (field, rest) := by
  have hfind : Field.all.find? (fun other => other.column == field.column) = some field := by
    cases field <;> decide
  have hname := all_is_name_char_column field
  rw [readColumn, word_append hname hrest, hfind,
    drop_while_append_of_all (List.all_eq_true.1 hname) hrest]
  rfl

/-! ## Literals -/

/-- Read quoted text up to the quote that ends it: a single one, since a quote within the text is
doubled. -/
def readQuoted : List Char → Option (List Char × List Char)
  | [] => none
  | '\x27' :: '\x27' :: rest => do
      let (cs, rest) ← readQuoted rest
      some ('\x27' :: cs, rest)
  | c :: rest =>
      if c = '\x27' then some ([], rest)
      else do
        let (cs, rest) ← readQuoted rest
        some (c :: cs, rest)

/-- Read a text literal. -/
def readLiteral (cs : List Char) : Option (String × List Char) := do
  let (value, rest) ← readQuoted (← expect "'" cs)
  some (String.ofList value, rest)

/-- The text does not go on with a quote. -/
def EndsLiteral (rest : List Char) : Prop :=
  rest.head? ≠ some '\x27'

/-- Quoted text is read back, whatever quotes it holds. -/
theorem read_quoted_double_quotes (cs : List Char) {rest : List Char} (hrest : EndsLiteral rest) :
    readQuoted (doubleQuotes cs ++ '\x27' :: rest) = some (cs, rest) := by
  induction cs with
  | nil =>
      cases rest with
      | nil => rfl
      | cons c rest =>
          have hc : c ≠ '\x27' := fun h => hrest (congrArg some h)
          simp [doubleQuotes, readQuoted, hc]
  | cons c cs ih =>
      by_cases hc : c = '\x27'
      · simp [doubleQuotes, hc, readQuoted, ih]
      · rw [doubleQuotes, if_neg hc, List.cons_append, readQuoted, if_neg hc, ih]
        · rfl
        · rintro rest' rfl
          exact absurd rfl hc

/-- A literal is read back. -/
theorem read_literal_append (value : String) {rest : List Char} (hrest : EndsLiteral rest) :
    readLiteral ((literal value).toList ++ rest) = some (value, rest) := by
  have hquoted := read_quoted_double_quotes value.toList hrest
  simp [readLiteral, literal, expect, Comparison.stripFront?, hquoted]

/-! ## Lists of literals -/

/-- Read one or more literals with commas between them. -/
def readLiterals : Nat → List Char → Option (List String × List Char)
  | 0, _ => none
  | fuel + 1, cs => do
      let (value, rest) ← readLiteral cs
      match expect ", " rest with
      | some rest => do
          let (values, rest) ← readLiterals fuel rest
          some (value :: values, rest)
      | none => some ([value], rest)

/-- Neither a literal nor a comma goes on in the text. -/
def EndsLiterals (rest : List Char) : Prop :=
  EndsLiteral rest ∧ expect ", " rest = none

/-- Literals with commas between them are read back. -/
theorem read_literals_append (value : String) (values : List String) {rest : List Char}
    (hrest : EndsLiterals rest) {fuel : Nat} (hfuel : values.length < fuel) :
    readLiterals fuel
        ((String.intercalate ", " ((value :: values).map literal)).toList ++ rest) =
      some (value :: values, rest) := by
  induction values generalizing value fuel with
  | nil =>
      obtain ⟨fuel, rfl⟩ : ∃ n, fuel = n + 1 := ⟨fuel - 1, by simp at hfuel; omega⟩
      simp [readLiterals, read_literal_append value hrest.1, hrest.2]
  | cons next values ih =>
      obtain ⟨fuel, rfl⟩ : ∃ n, fuel = n + 1 := ⟨fuel - 1, by simp at hfuel; omega⟩
      have hlength : values.length < fuel := by simpa using hfuel
      have hvalues := ih next hlength
      have hcomma : EndsLiteral (", ".toList ++
          ((String.intercalate ", " ((next :: values).map literal)).toList ++ rest)) := by
        simp [EndsLiteral]
      rw [List.map_cons, List.map_cons, String.intercalate_cons_cons, ← List.map_cons,
        String.toList_append, String.toList_append, List.append_assoc, List.append_assoc]
      simp only [readLiterals, Option.bind_eq_bind, read_literal_append value hcomma,
        Option.bind_some, expect_append, hvalues]

/-! ## Numbers -/

/-- Read an integer: a minus sign, if there is one, and digits. -/
def readInteger (cs : List Char) : Int64 × List Char :=
  if cs.head? = some '-' then
    (Int64.ofInt (-(natOfDigits (cs.tail.takeWhile isAsciiDigit) : Int)),
      cs.tail.dropWhile isAsciiDigit)
  else (Int64.ofInt (natOfDigits (cs.takeWhile isAsciiDigit)), cs.dropWhile isAsciiDigit)

/-- The text does not go on with a digit. -/
def EndsNumber (rest : List Char) : Prop :=
  ∀ c ∈ rest.head?, isAsciiDigit c = false

/-- An integer is read back. -/
theorem read_integer_append (value : Int64) {rest : List Char} (hrest : EndsNumber rest) :
    readInteger ((intText value.toInt).toList ++ rest) = (value, rest) := by
  have htake (n : Nat) : (natDigits n ++ rest).takeWhile isAsciiDigit = natDigits n :=
    take_while_append_of_all is_ascii_digit_of_mem_nat_digits hrest
  have hdrop (n : Nat) : (natDigits n ++ rest).dropWhile isAsciiDigit = rest :=
    drop_while_append_of_all is_ascii_digit_of_mem_nat_digits hrest
  by_cases hsign : value.toInt < 0
  · have hvalue : -(value.toInt.natAbs : Int) = value.toInt := by omega
    rw [intText, if_pos hsign, String.toList_ofList, List.cons_append, readInteger,
      if_pos (List.head?_cons),
      List.tail_cons, htake, hdrop, nat_of_digits_nat_digits, hvalue, Int64.ofInt_toInt]
  · have hvalue : (value.toInt.natAbs : Int) = value.toInt := by omega
    have hhead : (natDigits value.toInt.natAbs ++ rest).head? ≠ some '-' := by
      obtain ⟨c, cs, hdigits⟩ :=
        List.exists_cons_of_ne_nil (Nat.toDigits_ne_nil (n := value.toInt.natAbs) (b := 10))
      have hc := is_ascii_digit_of_mem_nat_digits (n := value.toInt.natAbs) c
        (by rw [natDigits, hdigits]; exact List.mem_cons_self)
      rw [natDigits, hdigits]
      rintro heq
      obtain rfl : c = '-' := by simpa using heq
      exact absurd hc (by decide)
    rw [intText, if_neg hsign, String.toList_ofList, readInteger, if_neg hhead, htake, hdrop,
      nat_of_digits_nat_digits, hvalue, Int64.ofInt_toInt]

/-! ## Color lists -/

/-- Read a list of colors. -/
def readColors (fuel : Nat) (cs : List Char) : Option (List Color × List Char) := do
  let cs ← expect "[" cs
  match expect "]::VARCHAR[]" cs with
  | some rest => some ([], rest)
  | none => do
      let (codes, rest) ← readLiterals fuel cs
      some (← codes.mapM Color.ofCode?, ← expect "]" rest)

/-- Color codes are read back. -/
theorem map_m_of_code (colors : List Color) :
    (colors.map Color.code).mapM Color.ofCode? = some colors := by
  induction colors with
  | nil => rfl
  | cons color colors ih =>
      have hcode : Color.ofCode? color.code = some color := by cases color <;> decide
      rw [List.map_cons, List.mapM_cons, hcode, ih]
      rfl

/-- Literals with commas between them start with a quote. -/
theorem exists_literals_eq_cons (value : String) (values : List String) :
    ∃ tail, (String.intercalate ", " ((value :: values).map literal)).toList = '\x27' :: tail := by
  cases values with
  | nil => exact ⟨_, by simp [literal]; rfl⟩
  | cons next values =>
      rw [List.map_cons, List.map_cons, String.intercalate_cons_cons]
      exact ⟨_, by simp [literal]; rfl⟩

/-- A list of colors is read back. -/
theorem read_colors_append (colors : List Color) (rest : List Char) {fuel : Nat}
    (hfuel : colors.length ≤ fuel) :
    readColors fuel ((colorsLiteral colors).toList ++ rest) = some (colors, rest) := by
  cases colors with
  | nil => rfl
  | cons color colors =>
      have hends : EndsLiterals ("]".toList ++ rest) := ⟨by simp [EndsLiteral], rfl⟩
      have hlength : (colors.map Color.code).length < fuel := by
        rw [List.length_map]
        exact hfuel
      have hcodes := read_literals_append color.code (colors.map Color.code) hends hlength
      obtain ⟨tail, htail⟩ := exists_literals_eq_cons color.code (colors.map Color.code)
      have hempty : expect "]::VARCHAR[]" ((String.intercalate ", "
          ((color.code :: colors.map Color.code).map literal)).toList ++ ("]".toList ++ rest)) =
          none := by
        rw [htail]
        rfl
      have hliteral : colorsLiteral (color :: colors) = "[" ++ String.intercalate ", "
          ((color.code :: colors.map Color.code).map literal) ++ "]" := by
        simp [colorsLiteral, Function.comp_def]
      have hback : (color.code :: colors.map Color.code).mapM Color.ofCode? =
          some (color :: colors) := map_m_of_code (color :: colors)
      rw [readColors, hliteral, String.toList_append, String.toList_append, List.append_assoc,
        List.append_assoc, expect_append]
      simp only [Option.bind_eq_bind, Option.bind_some, hempty, hcodes, hback, expect_append]

end CardCatalog.ConditionReader
