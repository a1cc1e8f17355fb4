import CardCatalog.Proofs.Catalog.Evaluate
import CardCatalog.Proofs.Catalog.Executable
import CardCatalog.Proofs.Pattern.Substring
import CardCatalog.Proofs.Query.Negation
import CardCatalog.Proofs.Query.Quoted
import CardCatalog.Proofs.Query.Term
import CardCatalog.Proofs.Query.Written

/-!
# Searches for a phrase

A query of one token means what the token means as a term, or matches every card if it is none
(`compile_of_plain_token`, `compile_of_no_term`). Quotes keep a phrase within one token. After a key
and a colon it is searched literally in the fields of the key, whatever it holds
(`selects_keyed_phrase`). On its own it is searched as a name, unless the token, which has lost its
quotes, is a parenthesis or `or`, or has another form of a term (`compile_quoted_eq_name_search_iff`).
-/

namespace CardCatalog

open CardCatalog.Text

/-! ## Queries of one token -/

/-- A query of a single term means the predicate of the term. -/
theorem compile_of_plain_token {query token : String} (htokens : tokenize query = [token])
    (hplain : Symbol.IsPlain token) :
    compile query =
      .allOf ((buildTerm token).map fun p => Predicate.allOf [.anyOf [p]]).toList := by
  have hsymbols : Symbol.ofTokens (tokenize query) = [.term token] := by
    rw [htokens, Symbol.ofTokens, Symbol.of_token_of_is_plain hplain]
  have hread : QueryTree.readPart (Symbol.ofTokens (tokenize query)) = ([[.term token]], []) := by
    rw [hsymbols]
    rfl
  rw [compile_of_read_part hread]
  cases hbuild : buildTerm token with
  | none => simp [QueryTree.meaning?, groupMeanings, itemMeanings, QueryItem.meaning?, hbuild]
  | some p => simp [QueryTree.meaning?, groupMeanings, itemMeanings, QueryItem.meaning?, hbuild]

/-- A closing parenthesis on its own stands between two parts without groups. -/
theorem read_all_closing : QueryTree.readAll [.closing] = [[], []] := by
  rw [QueryTree.readAll]
  split
  · rename_i hunread
    exact absurd hunread (by decide)
  · rename_i hunread
    obtain ⟨_, rfl⟩ := List.cons_eq_cons.1 hunread
    rw [QueryTree.read_all_of_read_part rfl]
    rfl

/-- A query of a single token that is no term matches every card. -/
theorem compile_of_no_term {query token : String} (htokens : tokenize query = [token])
    (hplain : ¬ Symbol.IsPlain token) : compile query = .matchAll := by
  have hsymbols : Symbol.ofTokens (tokenize query) = [Symbol.ofToken token] := by
    rw [htokens, Symbol.ofTokens]
  by_cases hopening : token = "("
  · subst hopening
    have hread : QueryTree.readPart (Symbol.ofTokens (tokenize query)) =
        ([[.nested false []]], []) := by
      rw [hsymbols]
      rfl
    exact compile_of_read_part hread
  by_cases hclosing : token = ")"
  · subst hclosing
    have hsymbol : Symbol.ofToken ")" = .closing := rfl
    rw [compile, hsymbols, hsymbol, read_all_closing]
    rfl
  · have hor : Symbol.isOr token = true := by
      by_contra hor
      exact hplain ⟨hopening, hclosing, by simpa using hor⟩
    have hsymbol : Symbol.ofToken token = .orWord := by
      rw [Symbol.ofToken, if_neg hopening, if_neg hclosing, if_pos hor]
    have hread : QueryTree.readPart (Symbol.ofTokens (tokenize query)) = ([], []) := by
      rw [hsymbols, hsymbol]
      rfl
    exact compile_of_read_part hread

/-! ## Phrases under a key -/

namespace SearchKey

/-- Under a key whose fields all hold running text, a phrase is searched in any of them. -/
theorem build_phrase {key : SearchKey} (hfields : ∀ field ∈ key.fields, field ∈ phraseFields)
    (phrase : String) (comparison : Option Comparison) :
    key.build? phrase comparison =
      some (.anyOf (key.fields.map fun field => substring field phrase)) := by
  revert hfields
  cases key
  case type | oracle | flavorName | keyword | name => exact fun _ => rfl
  all_goals exact fun hfields => absurd hfields (by decide)

end SearchKey

/-- A substring search selects the rows whose field contains the text, up to case. -/
theorem selects_substring_iff (row : Row) (field : Field) (text : String) :
    (SearchKey.substring field text).selects row = true ↔ ContainsFolded text (row.text field) := by
  have heval : (SearchKey.substring field text).eval row =
      .ofBool ((Pattern.literalText ⟨true, false, false⟩ text.toList).matchesIn (row.text field)) := by
    rw [SearchKey.substring, Predicate.eval, Constraint.eval, Pattern.parse_escape]
  rw [Predicate.selects, heval, Truth.holds_of_bool, Pattern.matches_in_literal_text]

/-- A query of a single term selects what the predicate of the term selects. -/
theorem selects_of_plain_token {query token : String} {p : Predicate}
    (htokens : tokenize query = [token]) (hplain : Symbol.IsPlain token)
    (hbuild : buildTerm token = some p) (row : Row) : (compile query).selects row = p.selects row := by
  rw [compile_of_plain_token htokens hplain, hbuild]
  simp [Predicate.selects_all_of, Predicate.selects_any_of]

/-- A query of a single term is executable if the predicate of the term is. -/
theorem is_executable_of_plain_token {query token : String} {p : Predicate}
    (htokens : tokenize query = [token]) (hplain : Symbol.IsPlain token)
    (hbuild : buildTerm token = some p) (h : p.isExecutable = true) :
    (compile query).isExecutable = true := by
  rw [compile_of_plain_token htokens hplain, hbuild]
  simp [Predicate.is_executable_all_of_iff, Predicate.is_executable_any_of_iff, h]

/-- A term with a key of its own is what the key builds of its value, if the key accepts it. -/
theorem build_term_of_parse {key : SearchKey} {spelling value token : String}
    {comparison : Option Comparison} (hspelling : toLower spelling ∈ key.spellings)
    (hparse : Term.parse token = ⟨some spelling, value, comparison, false⟩)
    (haccepts : key.accepts value = true) : buildTerm token = key.build? value comparison := by
  rw [buildTerm, hparse, Term.predicate?]
  simp [SearchKey.lookup_eq_of_mem_spellings hspelling, haccepts]

/-- A key with a phrase after a colon is a term that searches the phrase in the fields of the key. -/
theorem build_term_keyed {key : SearchKey} {spelling : String}
    (hspelling : toLower spelling ∈ key.spellings) (hfields : ∀ field ∈ key.fields, field ∈ phraseFields)
    (phrase : String) :
    buildTerm (spelling ++ ":" ++ phrase) =
      some (.anyOf (key.fields.map fun field => SearchKey.substring field phrase)) := by
  obtain ⟨hfilled, hletters⟩ := SearchKey.is_key_letter_of_mem_spellings hspelling
  have haccepts : key.accepts phrase = true := by
    cases key
    case set | layout | language => exact absurd hfields (by decide)
    all_goals rfl
  rw [build_term_of_parse hspelling (Term.parse_keyed hfilled hletters phrase) haccepts,
    SearchKey.build_phrase hfields]

/-- A token with a character that is neither a letter nor a parenthesis is no parenthesis and not the
word `or`. -/
theorem is_plain_of_mem {token : String} {c : Char} (hc : c ∈ token.toList)
    (hparen : Token.isParen c = false) (hletter : ¬ isAsciiLetter c = true) :
    Symbol.IsPlain token := by
  refine ⟨?_, ?_, eq_ignoring_ascii_case_of_not_letter hc hletter (by decide)⟩
  · rintro rfl
    obtain rfl := List.mem_singleton.1 hc
    exact absurd hparen (by decide)
  · rintro rfl
    obtain rfl := List.mem_singleton.1 hc
    exact absurd hparen (by decide)

/-- A token with a colon is no parenthesis and not the word `or`. -/
theorem is_plain_of_colon {token : String} (hcolon : ':' ∈ token.toList) :
    Symbol.IsPlain token :=
  is_plain_of_mem hcolon (by decide) (by decide)

/-- A field of running text holds no color list. -/
theorem is_color_list_of_phrase_field {field : Field} (h : field ∈ phraseFields) :
    field.isColorList = false := by
  revert field
  decide

/-- A key with a quoted phrase after a colon selects the cards that hold the phrase, character by
character and up to case, in a field of the key; and the database takes its condition. -/
theorem selects_keyed_phrase {key : SearchKey} {spelling phrase : String}
    (hspelling : toLower spelling ∈ key.spellings) (hfields : ∀ field ∈ key.fields, field ∈ phraseFields)
    (hquote : '\x22' ∉ phrase.toList) (hzero : '\x00' ∉ phrase.toList) (row : Row) :
    (compile (spelling ++ ":\x22" ++ phrase ++ "\x22")).isExecutable = true ∧
      ((compile (spelling ++ ":\x22" ++ phrase ++ "\x22")).selects row = true ↔
        ∃ field ∈ key.fields, ContainsFolded phrase (row.text field)) := by
  have hletters := (SearchKey.is_key_letter_of_mem_spellings hspelling).2
  have htokens := tokenize_keyed hletters hquote
  have hbuild := build_term_keyed hspelling hfields phrase
  have hplain : Symbol.IsPlain (spelling ++ ":" ++ phrase) :=
    is_plain_of_colon (by simp [String.toList_append])
  constructor
  · refine is_executable_of_plain_token htokens hplain hbuild ?_
    rw [Predicate.is_executable_any_of_iff]
    intro p hp
    obtain ⟨field, hfield, rfl⟩ := List.mem_map.1 hp
    exact SearchKey.is_executable_substring (is_color_list_of_phrase_field (hfields field hfield)) hzero
  · rw [selects_of_plain_token htokens hplain hbuild, Predicate.selects_any_of, List.any_map,
      List.any_eq_true]
    simp only [Function.comp_apply, selects_substring_iff]

/-- The elves are found by a key in capitals, with a phrase of capitals between spaces after a second
colon. -/
theorem selects_keyed_phrase_elves :
    toLower "ORACLE" ∈ SearchKey.oracle.spellings ∧ (∀ field ∈ SearchKey.oracle.fields, field ∈ phraseFields) ∧
      '\x22' ∉ ": ADD ".toList ∧ '\x00' ∉ ": ADD ".toList ∧
      (compile ("ORACLE" ++ ":\x22" ++ ": ADD " ++ "\x22")).isExecutable = true ∧
      (compile ("ORACLE" ++ ":\x22" ++ ": ADD " ++ "\x22")).selects llanowarElves = true := by
  have hspelling : toLower "ORACLE" ∈ SearchKey.oracle.spellings := by decide
  have hfields : (∀ field ∈ SearchKey.oracle.fields, field ∈ phraseFields) := by decide
  have hquote : '\x22' ∉ ": ADD ".toList := by decide
  have hzero : '\x00' ∉ ": ADD ".toList := by decide
  have hcontains : ContainsFolded ": ADD " (llanowarElves.text .oracleText) := by decide
  obtain ⟨hexecutable, hselects⟩ :=
    selects_keyed_phrase hspelling hfields hquote hzero llanowarElves
  exact ⟨hspelling, hfields, hquote, hzero, hexecutable,
    hselects.2 ⟨.oracleText, by decide, hcontains⟩⟩

/-! ## Phrases without a key -/

/-- The search for a name: the text stands in the name or in the flavor name. -/
def nameSearch (text : String) : Predicate :=
  .any [.test (.matchesPattern .name (Pattern.escape text)),
    .test (.matchesPattern .flavorName (Pattern.escape text))]

namespace SearchKey

/-- The name is a field of one key only. -/
theorem eq_name_of_field {key : SearchKey} (h : .name ∈ key.fields) : key = .name := by
  revert h
  cases key <;> decide

end SearchKey

/-- A term with the constraints of a search for a name is a bare value, which is the name. -/
theorem is_bare_of_constraints {token : String} {p : Predicate} (hbuild : buildTerm token = some p)
    (h : p.constraints = (nameSearch token).constraints) : Term.IsBare token.toList := by
  obtain ⟨key, built, hbuilt, hp⟩ := build_term_eq_some hbuild
  have hconstraints : built.constraints = (nameSearch token).constraints := by
    rcases hp with rfl | rfl
    · exact h
    · rwa [Predicate.constraints_negate] at h
  have hname : Constraint.matchesPattern .name (Pattern.escape token) ∈ built.constraints := by
    rw [hconstraints]
    exact List.mem_cons_self ..
  obtain rfl := SearchKey.eq_name_of_field (SearchKey.search_build hbuilt _ hname).1
  obtain rfl : nameSearch (Term.parse token).value = built := Option.some.inj hbuilt
  have hvalue : (Term.parse token).value = token := by
    obtain ⟨htest, _⟩ := List.cons_eq_cons.1 hconstraints
    injection htest with _ hescape
    exact Pattern.escape_injective hescape
  obtain ⟨hnegated, hkey⟩ := Term.eq_bare_of_value_eq hvalue
  exact Term.is_bare_of_parse hnegated hkey

/-- A phrase wholly in double quotes is searched as a name, verbatim, exactly if it is neither a
parenthesis nor the word `or` and does not have the form of a term with a dash or with a key. -/
theorem compile_quoted_eq_name_search_iff {text : String} (hfilled : text ≠ "")
    (hquote : '\x22' ∉ text.toList) :
    compile ("\x22" ++ text ++ "\x22") = nameSearch text ↔
      Symbol.IsPlain text ∧ Term.IsBare text.toList := by
  have htokens := tokenize_quoted hfilled hquote
  constructor
  · intro hcompile
    have hplain : Symbol.IsPlain text := by
      by_contra hplain
      rw [compile_of_no_term htokens hplain] at hcompile
      exact absurd hcompile (by simp [Predicate.matchAll, nameSearch])
    rw [compile_of_plain_token htokens hplain] at hcompile
    cases hbuild : buildTerm text with
    | none =>
        rw [hbuild] at hcompile
        exact absurd hcompile (by simp [Predicate.allOf, Predicate.conjoin, nameSearch])
    | some p =>
        refine ⟨hplain, is_bare_of_constraints hbuild ?_⟩
        have hconstraints := congrArg Predicate.constraints hcompile
        simpa [hbuild, Predicate.constraints_all_of, Predicate.constraints_any_of,
          Predicate.constraintsOf] using hconstraints
  · rintro ⟨hplain, hbare⟩
    have hbuild : buildTerm text = some (nameSearch text) := by
      rw [buildTerm, Term.parse_of_is_bare hbare]
      rfl
    rw [compile_of_plain_token htokens hplain, hbuild]
    rfl

/-- A name with parentheses, quotes, the word `or` and a comparison sign in it is searched verbatim. -/
theorem compile_quoted_name_of_words :
    "B.F.M. (Big 'or' Bigger) >= 99" ≠ "" ∧ '\x22' ∉ "B.F.M. (Big 'or' Bigger) >= 99".toList ∧
      compile ("\x22" ++ "B.F.M. (Big 'or' Bigger) >= 99" ++ "\x22") =
        nameSearch "B.F.M. (Big 'or' Bigger) >= 99" := by
  have hfilled : "B.F.M. (Big 'or' Bigger) >= 99" ≠ "" := by decide
  have hquote : '\x22' ∉ "B.F.M. (Big 'or' Bigger) >= 99".toList := by decide
  have hbare : Term.IsBare "B.F.M. (Big 'or' Bigger) >= 99".toList :=
    Term.is_bare_of_parse (by decide) (by decide)
  exact ⟨hfilled, hquote, (compile_quoted_eq_name_search_iff hfilled hquote).2
    ⟨⟨by decide, by decide, by decide⟩, hbare⟩⟩

/-- The name of a card with a colon is not searched as a name between quotes: what stands before the
colon is no key, and the query matches every card. -/
theorem not_name_search_of_colon :
    ¬ ∀ text : String, text ≠ "" → '\x22' ∉ text.toList →
      compile ("\x22" ++ text ++ "\x22") = nameSearch text := by
  intro h
  have hfilled : "Circle of Protection: Red" ≠ "" := by decide
  have hquote : '\x22' ∉ "Circle of Protection: Red".toList := by decide
  have hdropped : buildTerm "Circle of Protection: Red" = none := by decide +kernel
  have hcompile : compile ("\x22" ++ "Circle of Protection: Red" ++ "\x22") = .matchAll := by
    rw [compile_of_plain_token (tokenize_quoted hfilled hquote)
      ⟨by decide, by decide, by decide⟩, hdropped]
    rfl
  exact absurd (hcompile.symm.trans (h _ hfilled hquote)) (by simp [Predicate.matchAll, nameSearch])

end CardCatalog
