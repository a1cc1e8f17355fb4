import CardCatalog.Catalog.Basic
import CardCatalog.Proofs.Catalog.Executable
import CardCatalog.Proofs.Pattern.Substring
import CardCatalog.Proofs.Query.LetterCase
import CardCatalog.Proofs.Query.Mapped
import CardCatalog.Proofs.Query.Nesting
import CardCatalog.Proofs.Query.ZeroFree

/-!
# Letter case in queries

The case of ASCII letters in a query shows in nothing but the patterns that its predicate searches for,
as long as no term has a numeric key (`build_term_lower_ascii`); and the case of a pattern makes no
difference to a search. So two queries that differ in the case of letters select the same rows, and get
the same answer of every catalog (`search_of_letter_case`).
-/

namespace CardCatalog

open CardCatalog.Text

/-! ## Patterns in lower case -/

/-- The escaped pattern of a text in lower case is that of the text in lower case. -/
theorem Text.Pattern.escape_lower_ascii (s : String) :
    Pattern.escape (lowerAscii s) = lowerAscii (Pattern.escape s) := by
  have hchar (c : Char) :
      Pattern.escapeChar (asciiLower c) = (Pattern.escapeChar c).map asciiLower := by
    have hspecial : asciiLower c ∈ Pattern.special ↔ c ∈ Pattern.special :=
      ascii_lower_mem_iff (by decide) c
    rw [Pattern.escapeChar, Pattern.escapeChar]
    simp only [hspecial]
    split <;> rfl
  rw [← String.toList_inj, Pattern.escape, String.toList_ofList, to_list_lower_ascii,
    to_list_lower_ascii, Pattern.escape, String.toList_ofList, List.flatMap_map, List.map_flatMap]
  simp only [hchar]

namespace Constraint

/-- The constraint with its pattern in lower case. -/
def lowered : Constraint → Constraint
  | .matchesPattern field pattern => .matchesPattern field (lowerAscii pattern)
  | constraint => constraint

/-- A text in lower case is searched for in the texts in which the text is. -/
theorem eval_substring_lower_ascii (row : Row) (field : Field) (text : String) :
    (matchesPattern field (Pattern.escape (lowerAscii text))).eval row =
      (matchesPattern field (Pattern.escape text)).eval row := by
  have hfolded : ContainsFolded (lowerAscii text) (row.text field) ↔
      ContainsFolded text (row.text field) := by
    have hchar : foldChar ∘ asciiLower = foldChar := funext fold_char_ascii_lower
    rw [ContainsFolded, to_list_lower_ascii, List.map_map, hchar, ContainsFolded]
  have hmatches : (Pattern.literalText ⟨true, false, false⟩ (lowerAscii text).toList).matchesIn
        (row.text field) =
      (Pattern.literalText ⟨true, false, false⟩ text.toList).matchesIn (row.text field) := by
    rw [Bool.eq_iff_iff, Pattern.matches_in_literal_text, Pattern.matches_in_literal_text, hfolded]
  rw [eval, eval, Pattern.parse_escape, Pattern.parse_escape]
  simp only [hmatches]

/-- A constraint that suits its field has the same truth with its pattern in lower case. -/
theorem IsSearch.eval_lowered {constraint : Constraint} (h : constraint.IsSearch) (row : Row) :
    constraint.lowered.eval row = constraint.eval row := by
  cases constraint with
  | matchesPattern field pattern =>
      obtain ⟨_, text, rfl⟩ := h
      rw [lowered, ← Pattern.escape_lower_ascii, eval_substring_lower_ascii]
  | equals _ _ | oneOf _ _ | colorsInclude _ _ | colorsWithin _ _ | colorsExactly _ _ | noColors _
  | compare _ _ _ | modulo _ _ _ => rfl

/-- A constraint that suits its field does so with its pattern in lower case. -/
theorem IsSearch.lowered {constraint : Constraint} (h : constraint.IsSearch) :
    constraint.lowered.IsSearch := by
  cases constraint with
  | matchesPattern field pattern =>
      obtain ⟨hfield, text, rfl⟩ := h
      exact ⟨hfield, lowerAscii text, (Pattern.escape_lower_ascii text).symm⟩
  | equals _ _ | oneOf _ _ | colorsInclude _ _ | colorsWithin _ _ | colorsExactly _ _ | noColors _
  | compare _ _ _ | modulo _ _ _ => exact h

/-- A condition has the character zero with the pattern in lower case if it has it. -/
theorem zero_mem_condition_lowered (constraint : Constraint) :
    '\x00' ∈ constraint.lowered.condition.toList ↔ '\x00' ∈ constraint.condition.toList := by
  cases constraint with
  | matchesPattern field pattern =>
      have hzero : '\x00' ∈ (lowerAscii pattern).toList ↔ '\x00' ∈ pattern.toList := by
        rw [to_list_lower_ascii, mem_map_ascii_lower_iff (by decide)]
      have hcondition (pattern : String) : (matchesPattern field pattern).condition =
          "regexp_matches(" ++ field.textExpression ++ ", " ++ literal pattern ++ ", 'i')" := rfl
      rw [lowered, hcondition, hcondition]
      simp only [String.toList_append, List.mem_append, zero_mem_literal_iff, hzero]
  | equals _ _ | oneOf _ _ | colorsInclude _ _ | colorsWithin _ _ | colorsExactly _ _ | noColors _
  | compare _ _ _ | modulo _ _ _ => rfl

/-- No constraint overflows because of its pattern. -/
theorem overflows_lowered (constraint : Constraint) (row : Row) :
    constraint.lowered.overflows row = constraint.overflows row := by
  cases constraint <;> rfl

end Constraint

/-- A predicate selects the same rows with its patterns in lower case. -/
theorem Predicate.selects_lowered {p : Predicate} (h : p.IsSearch) (row : Row) :
    (p.map Constraint.lowered).selects row = p.selects row := by
  rw [selects, eval_map row p fun c hc => (h c hc).eval_lowered row, selects]

/-- A search by a predicate with its patterns in lower case has the same answer. -/
theorem Catalog.search_lowered {p : Predicate} (h : p.IsSearch) (catalog : Catalog) (order : SortOrder)
    (limit : Option Nat) :
    catalog.search? (p.map Constraint.lowered) order limit = catalog.search? p order limit := by
  have hexecutable : (p.map Constraint.lowered).isExecutable = p.isExecutable := by
    rw [Bool.eq_iff_iff, Predicate.is_executable_iff, Predicate.is_executable_iff,
      Predicate.constraints_map, List.forall_mem_map]
    refine forall₂_congr fun c hc => ?_
    rw [(h c hc).lowered.is_executable, (h c hc).is_executable, c.zero_mem_condition_lowered]
  have hoverflows (row : Row) : (p.map Constraint.lowered).constraints.any (Constraint.overflows row) =
      p.constraints.any (Constraint.overflows row) := by
    have hconstraint : Constraint.overflows row ∘ Constraint.lowered = Constraint.overflows row :=
      funext fun c => c.overflows_lowered row
    rw [Predicate.constraints_map, List.any_map, hconstraint]
  have hadmits : catalog.admits (p.map Constraint.lowered) limit = catalog.admits p limit := by
    rw [admits, hexecutable, admits]
    simp only [hoverflows]
  have hselects : (p.map Constraint.lowered).selects = p.selects :=
    funext fun row => Predicate.selects_lowered h row
  rw [search?, hadmits, hits, hselects, search?, hits]

/-! ## Terms in lower case -/

namespace SearchKey

/-- The keys whose fields hold numbers. -/
def numeric : List SearchKey :=
  [.manaValue, .power, .toughness, .loyalty]

/-- A key is looked up in any case. -/
theorem lookup_lower_ascii (text : String) : lookup? (lowerAscii text) = lookup? text := by
  rw [lookup?, to_lower_lower_ascii, lookup?]

/-- A key accepts a value in any case. -/
theorem accepts_lower_ascii (key : SearchKey) (value : String) :
    key.accepts (lowerAscii value) = key.accepts value := by
  have hunderscore (c : Char) : (asciiLower c == '_') = (c == '_') := ascii_lower_beq (by decide) c
  have hdash (c : Char) : (asciiLower c == '-') = (c == '-') := ascii_lower_beq (by decide) c
  have hcode : isCode (lowerAscii value) = isCode value := by
    simp only [isCode, to_list_lower_ascii, List.isEmpty_map, List.all_map, Function.comp_def,
      is_ascii_letter_ascii_lower, is_ascii_digit_ascii_lower, hunderscore, hdash]
  cases key with
  | set | layout | language => exact hcode
  | color | identity | type | oracle | name | flavorName | manaValue | power | toughness | loyalty
  | rarity | keyword | exclude => rfl

/-- A phrase in lower case is searched by the pattern in lower case. -/
theorem substring_lower_ascii (field : Field) (text : String) :
    substring field (lowerAscii text) = (substring field text).map Constraint.lowered := by
  rw [substring, Pattern.escape_lower_ascii, substring]
  rfl

/-- A key without a field of running text searches for no pattern. -/
theorem map_build_eq_self {key : SearchKey} (hfields : ∀ field ∈ key.fields, field ∉ phraseFields)
    (value : String) (comparison : Option Comparison) :
    (key.build? value comparison).map (Predicate.map Constraint.lowered) =
      key.build? value comparison := by
  cases hbuild : key.build? value comparison with
  | none => rfl
  | some p =>
      refine congrArg some (p.map_eq_self fun c hc => ?_)
      obtain ⟨hfield, hsearch⟩ := search_build hbuild c hc
      cases c with
      | matchesPattern field pattern => exact absurd hsearch.1 (hfields field hfield)
      | equals _ _ | oneOf _ _ | colorsInclude _ _ | colorsWithin _ _ | colorsExactly _ _ | noColors _
      | compare _ _ _ | modulo _ _ _ => rfl

/-- A key that is not numeric builds of a value in lower case what it builds of the value, with its
patterns in lower case. -/
theorem build_lower_ascii {key : SearchKey} (hkey : key ∉ numeric) (value : String)
    (comparison : Option Comparison) :
    key.build? (lowerAscii value) comparison =
      (key.build? value comparison).map (Predicate.map Constraint.lowered) := by
  cases key with
  | manaValue | power | toughness | loyalty => exact absurd (by decide) hkey
  | type | oracle | flavorName | keyword => exact congrArg some (substring_lower_ascii _ value)
  | name =>
      rw [build?, build?, Option.map_some, Predicate.map_any_of]
      simp only [List.map_cons, List.map_nil, substring_lower_ascii]
  | color | identity =>
      have hcolors : Color.parse (lowerAscii value) = Color.parse value := by
        rw [Color.parse, to_lower_lower_ascii, Color.parse]
      have hsearch (field : Field) : colorSearch field (lowerAscii value) comparison =
          colorSearch field value comparison := by
        unfold colorSearch
        rw [hcolors]
      rw [map_build_eq_self (by decide), build?, hsearch, build?]
  | set | layout | language =>
      rw [map_build_eq_self (by decide), build?, to_lower_lower_ascii, build?]
  | rarity =>
      have hsearch : raritySearch (lowerAscii value) comparison = raritySearch value comparison := by
        rw [raritySearch, to_lower_lower_ascii, raritySearch]
      rw [map_build_eq_self (by decide), build?, hsearch, build?]
  | exclude =>
      rw [build?, build?, exclusion?, exclusion?, eq_ignoring_ascii_case_lower_ascii]
      split <;> rfl

end SearchKey

namespace Term

/-- The key of a term, if it is known. A term without a key searches names. -/
def searchKey? (term : Term) : Option SearchKey :=
  match term.key with
  | none => some .name
  | some text => SearchKey.lookup? text

/-- A term in lower case has the key of the term. -/
theorem search_key_lowered (term : Term) : term.lowered.searchKey? = term.searchKey? := by
  obtain ⟨key, value, comparison, negated⟩ := term
  cases key with
  | none => rfl
  | some text => exact SearchKey.lookup_lower_ascii text

/-- A term is what its key builds of its value, if the key is known and accepts it. -/
theorem predicate_eq (term : Term) :
    term.predicate? = term.searchKey?.bind fun key =>
      if key.accepts term.value then
        (key.build? term.value term.comparison).map fun p => if term.negated then p.negate else p
      else none := by
  obtain ⟨key, value, comparison, negated⟩ := term
  have hbuild (key : SearchKey) :
      (key.build? value comparison).bind (fun p => some (if negated then p.negate else p)) =
        (key.build? value comparison).map fun p => if negated then p.negate else p := by
    rw [Option.map_eq_bind]
    rfl
  cases key with
  | none => rfl
  | some text =>
      rw [predicate?, searchKey?]
      refine Option.bind_congr fun key _ => ?_
      simp only [Option.bind_eq_bind, hbuild]

/-- A term in lower case whose key is not numeric is the predicate of the term with its patterns in
lower case. -/
theorem predicate_lowered {term : Term} (h : ∀ key ∈ term.searchKey?, key ∉ SearchKey.numeric) :
    term.lowered.predicate? = term.predicate?.map (Predicate.map Constraint.lowered) := by
  have hsign (p : Predicate) : (if term.negated then p.negate else p).map Constraint.lowered =
      if term.negated then (p.map Constraint.lowered).negate else p.map Constraint.lowered := by
    split
    · exact p.map_negate
    · rfl
  rw [predicate_eq, search_key_lowered, predicate_eq]
  cases hkey : term.searchKey? with
  | none => rfl
  | some key =>
      have hvalue : term.lowered.value = lowerAscii term.value := rfl
      rw [Option.bind_some, Option.bind_some, hvalue, SearchKey.accepts_lower_ascii]
      split
      · rw [SearchKey.build_lower_ascii (h key hkey), Option.map_map, Option.map_map]
        exact Option.map_congr fun p _ => (hsign p).symm
      · rfl

end Term

/-- A token in lower case whose key is not numeric is the predicate of the token with its patterns in
lower case. -/
theorem build_term_lower_ascii {token : String}
    (h : ∀ key ∈ (Term.parse token).searchKey?, key ∉ SearchKey.numeric) :
    buildTerm (lowerAscii token) = (buildTerm token).map (Predicate.map Constraint.lowered) := by
  rw [buildTerm, Term.parse_lower_ascii, Term.predicate_lowered h, buildTerm]

/-- Tokens that agree up to the case of letters have the same key. -/
theorem search_key_of_letter_case {token other : String} (h : lowerAscii token = lowerAscii other) :
    (Term.parse token).searchKey? = (Term.parse other).searchKey? := by
  rw [← Term.search_key_lowered, ← Term.parse_lower_ascii, h, Term.parse_lower_ascii,
    Term.search_key_lowered]

/-! ## Queries -/

/-- Symbols that agree up to the case of letters mean the same with their patterns in lower case, if
the key of the term is not numeric. -/
theorem Symbol.agrees_of_letter_case {symbol other : Symbol}
    (hkey : ∀ text, symbol = .term text → ∀ key ∈ (Term.parse text).searchKey?, key ∉ SearchKey.numeric)
    (h : symbol.lowered = other.lowered) : symbol.Agrees Constraint.lowered other := by
  rcases Symbol.lowered_eq_cases h with rfl | ⟨text, otherText, rfl, rfl, htext⟩
  · exact .refl symbol
  · have hnumeric := hkey text rfl
    have hother := search_key_of_letter_case htext ▸ hnumeric
    exact .term (by rw [← build_term_lower_ascii hnumeric, htext, build_term_lower_ascii hother])

/-- The symbols of queries that differ in the case of letters are those of the same text in lower
case. -/
theorem lowered_symbols_of_letter_case {query other : String}
    (h : eqIgnoringAsciiCase query other = true) :
    (Symbol.ofTokens (tokenize query)).map Symbol.lowered =
      (Symbol.ofTokens (tokenize other)).map Symbol.lowered := by
  rw [eq_ignoring_ascii_case_iff] at h
  rw [← Symbol.of_tokens_lower_ascii, ← tokenize_lower_ascii, h, tokenize_lower_ascii,
    Symbol.of_tokens_lower_ascii]

/-- Queries without numeric keys that differ in the case of letters have the same predicate, with its
patterns in lower case. -/
theorem compile_of_letter_case {query other : String} (h : eqIgnoringAsciiCase query other = true)
    (hkeys : ∀ token ∈ tokenize query, ∀ key ∈ (Term.parse token).searchKey?,
      key ∉ SearchKey.numeric) :
    (compile query).map Constraint.lowered = (compile other).map Constraint.lowered := by
  have hsame : List.Forall₂ (fun symbol other => symbol.lowered = other.lowered)
      (Symbol.ofTokens (tokenize query)) (Symbol.ofTokens (tokenize other)) := by
    have hlowered := lowered_symbols_of_letter_case h
    rwa [← List.forall₂_eq_eq_eq, List.forall₂_map_left_iff, List.forall₂_map_right_iff] at hlowered
  have hterms : ∀ symbol ∈ Symbol.ofTokens (tokenize query), ∀ text, symbol = .term text →
      ∀ key ∈ (Term.parse text).searchKey?, key ∉ SearchKey.numeric := by
    rintro _ hsymbol text rfl
    exact hkeys text (Symbol.mem_of_term_mem_of_tokens hsymbol)
  refine map_compile_eq ((List.forall₂_and_left _ _ |>.2 ⟨hterms, hsame⟩).imp ?_)
  rintro symbol otherSymbol ⟨hkey, heq⟩
  exact Symbol.agrees_of_letter_case hkey heq

/-- Queries without numeric keys that differ in the case of ASCII letters select the same rows, and
every catalog answers them alike. -/
theorem search_of_letter_case {query other : String} (h : eqIgnoringAsciiCase query other = true)
    (hkeys : ∀ token ∈ tokenize query, ∀ key ∈ (Term.parse token).searchKey?,
      key ∉ SearchKey.numeric) :
    (∀ row, (compile query).selects row = (compile other).selects row) ∧
      ∀ (catalog : Catalog) (order : SortOrder) (limit : Option Nat),
        catalog.search? (compile query) order limit = catalog.search? (compile other) order limit := by
  have hcompiled := compile_of_letter_case h hkeys
  constructor
  · intro row
    rw [← Predicate.selects_lowered (compile_constraints query), hcompiled,
      Predicate.selects_lowered (compile_constraints other)]
  · intro catalog order limit
    rw [← catalog.search_lowered (compile_constraints query), hcompiled,
      catalog.search_lowered (compile_constraints other)]

/-- A query with a key, an `or`, colors, an exclusion and a phrase finds the same cards in capitals. -/
theorem search_of_letter_case_capitals :
    eqIgnoringAsciiCase "t:elf or -c:gruul exclude:extras \"deal three\""
        "T:ELF OR -C:GRUUL EXCLUDE:EXTRAS \"DEAL THREE\"" = true ∧
      (∀ row, (compile "t:elf or -c:gruul exclude:extras \"deal three\"").selects row =
        (compile "T:ELF OR -C:GRUUL EXCLUDE:EXTRAS \"DEAL THREE\"").selects row) ∧
      ∀ (catalog : Catalog) (order : SortOrder) (limit : Option Nat),
        catalog.search? (compile "t:elf or -c:gruul exclude:extras \"deal three\"") order limit =
          catalog.search? (compile "T:ELF OR -C:GRUUL EXCLUDE:EXTRAS \"DEAL THREE\"") order limit :=
  ⟨by decide, search_of_letter_case (by decide) (by decide)⟩

end CardCatalog
