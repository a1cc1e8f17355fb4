import CardCatalog.Proofs.Query.Spelling
import CardCatalog.Query.Token
import CardCatalog.Query.Tree
import Mathlib.Tactic.SplitIfs

/-!
# Tokens and terms up to the case of letters

A query in lower case has the tokens of the query in lower case (`tokenize_lower_ascii`). They play the
same parts in it (`of_tokens_lower_ascii`), and a term is taken apart in the same places
(`parse_lower_ascii`): no white space, quote, parenthesis, colon or comparison is a letter.
-/

namespace CardCatalog

open CardCatalog.Text

/-! ## Tokens -/

namespace Token

/-- No quote is a letter. -/
theorem not_letter_of_is_quote {c : Char} (h : isQuote c = true) : ¬ isAsciiLetter c = true := by
  rw [isQuote, Bool.or_eq_true, beq_iff_eq, beq_iff_eq] at h
  rcases h with rfl | rfl <;> decide

/-- No parenthesis is a letter. -/
theorem not_letter_of_is_paren {c : Char} (h : isParen c = true) : ¬ isAsciiLetter c = true := by
  rw [isParen, Bool.or_eq_true, beq_iff_eq, beq_iff_eq] at h
  rcases h with rfl | rfl <;> decide

/-- Quotes are not a matter of case. -/
theorem is_quote_ascii_lower (c : Char) : isQuote (asciiLower c) = isQuote c :=
  of_ascii_lower (fun _ hletter => Bool.eq_false_iff.2 fun h => not_letter_of_is_quote h hletter) c

/-- Parentheses are not a matter of case. -/
theorem is_paren_ascii_lower (c : Char) : isParen (asciiLower c) = isParen c :=
  of_ascii_lower (fun _ hletter => Bool.eq_false_iff.2 fun h => not_letter_of_is_paren h hletter) c

/-- A token in lower case is put in front of tokens in lower case. -/
theorem flush_map_ascii_lower (token : List Char) (others : List (List Char)) :
    flush (token.map asciiLower) (others.map (List.map asciiLower)) =
      (flush token others).map (List.map asciiLower) := by
  cases token <;> rfl

/-- A text in lower case falls apart where the text does. -/
theorem scan_map_ascii_lower {quote : Option Char} (hquote : ∀ q ∈ quote, isQuote q = true)
    (cs : List Char) :
    scan quote (cs.map asciiLower) =
      ((scan quote cs).1.map asciiLower, (scan quote cs).2.map (List.map asciiLower)) := by
  induction cs generalizing quote with
  | nil => rfl
  | cons c cs ih =>
      rw [List.map_cons]
      cases quote with
      | some q =>
          have hclose : asciiLower c = q ↔ c = q :=
            ascii_lower_eq_iff (not_letter_of_is_quote (hquote q rfl))
          by_cases hc : c = q
          · rw [scan, if_pos (hclose.2 hc), ih (by simp), scan, if_pos hc]
          · rw [scan, if_neg (mt hclose.1 hc), ih hquote, scan, if_neg hc]
            rfl
      | none =>
          have hrest := ih hquote
          rw [scan, scan, is_quote_ascii_lower, is_paren_ascii_lower, is_white_space_ascii_lower]
          by_cases hopen : isQuote c = true
          · rw [if_pos hopen, if_pos hopen, (ascii_lower_eq_iff (not_letter_of_is_quote hopen)).2 rfl]
            exact ih fun q hq => Option.some.inj hq ▸ hopen
          · rw [if_neg hopen, if_neg hopen, hrest]
            dsimp only
            split_ifs with hparen hspace
            · simp [flush_map_ascii_lower, (ascii_lower_eq_iff (not_letter_of_is_paren hparen)).2 rfl]
            · simp [flush_map_ascii_lower]
            · rfl

end Token

/-- The tokens of a query in lower case are those of the query in lower case. -/
theorem tokenize_lower_ascii (query : String) :
    tokenize (lowerAscii query) = (tokenize query).map lowerAscii := by
  have hsplit : Token.split none (query.toList.map asciiLower) =
      (Token.split none query.toList).map (List.map asciiLower) := by
    rw [Token.split, Token.scan_map_ascii_lower (by simp), Token.flush_map_ascii_lower, Token.split]
  rw [tokenize, to_list_lower_ascii, hsplit, tokenize, List.map_map, List.map_map]
  refine List.map_congr_left fun cs _ => ?_
  simp [lowerAscii]

/-! ## Symbols -/

namespace Symbol

/-- The symbol with the text of a term in lower case. -/
def lowered : Symbol → Symbol
  | .term text => .term (lowerAscii text)
  | symbol => symbol

/-- A token in lower case plays the part of the token. -/
theorem of_token_lower_ascii (token : String) : ofToken (lowerAscii token) = (ofToken token).lowered := by
  have hopening : lowerAscii token = "(" ↔ token = "(" := lower_ascii_eq_iff (by decide)
  have hclosing : lowerAscii token = ")" ↔ token = ")" := lower_ascii_eq_iff (by decide)
  have hor : isOr (lowerAscii token) = isOr token := eq_ignoring_ascii_case_lower_ascii token "or"
  simp only [ofToken, hopening, hclosing, hor]
  split_ifs <;> rfl

/-- Tokens in lower case play the parts of the tokens. -/
theorem of_tokens_lower_ascii (tokens : List String) :
    ofTokens (tokens.map lowerAscii) = (ofTokens tokens).map lowered := by
  induction tokens using ofTokens.induct with
  | case1 => rfl
  | case2 token => simp [ofTokens, of_token_lower_ascii]
  | case3 token next rest hdash ih =>
      obtain ⟨rfl, rfl⟩ := hdash
      have hwords : lowerAscii "-" = "-" ∧ lowerAscii "(" = "(" := by decide
      simp [ofTokens, hwords, ih, lowered]
  | case4 token next rest hdash ih =>
      have hdash' : ¬ (lowerAscii token = "-" ∧ lowerAscii next = "(") := by
        rwa [lower_ascii_eq_iff (by decide), lower_ascii_eq_iff (by decide)]
      rw [List.map_cons] at ih
      rw [List.map_cons, List.map_cons, ofTokens, if_neg hdash', ih, of_token_lower_ascii, ofTokens,
        if_neg hdash, List.map_cons]

/-- Symbols that are the same in lower case are the same, or two terms that are. -/
theorem lowered_eq_cases {symbol other : Symbol} (h : symbol.lowered = other.lowered) :
    symbol = other ∨
      ∃ text otherText, symbol = .term text ∧ other = .term otherText ∧
        lowerAscii text = lowerAscii otherText := by
  cases symbol with
  | term text =>
      cases other with
      | term otherText => exact .inr ⟨text, otherText, rfl, rfl, Symbol.term.inj h⟩
      | orWord | opening _ | closing => exact absurd h (by simp [lowered])
  | orWord | opening _ | closing =>
      refine .inl ?_
      cases other <;> simp_all [lowered]

end Symbol

/-! ## Terms -/

/-- The symbol of a comparison stands in front of a text in lower case if it stands in front of the
text. -/
theorem Comparison.strip_map_ascii_lower (comparison : Comparison) (cs : List Char) :
    comparison.strip? (cs.map asciiLower) = (comparison.strip? cs).map (List.map asciiLower) := by
  have hfront : ∀ expected : List Char, expected.any isAsciiLetter = false → ∀ cs,
      stripFront? expected (cs.map asciiLower) = (stripFront? expected cs).map (List.map asciiLower) := by
    intro expected hexpected
    induction expected with
    | nil => intro cs; rfl
    | cons d expected ih =>
        rw [List.any_cons, Bool.or_eq_false_iff] at hexpected
        obtain ⟨hd, hrest⟩ := hexpected
        intro cs
        cases cs with
        | nil => rfl
        | cons c cs =>
            have hfirst : d = asciiLower c ↔ d = c := by
              rw [eq_comm, ascii_lower_eq_iff (Bool.eq_false_iff.1 hd), eq_comm]
            rw [List.map_cons, stripFront?, stripFront?, ih hrest]
            simp only [hfirst]
            split <;> rfl
  exact hfront _ (by cases comparison <;> decide) cs

namespace Term

/-- The term with its key and its value in lower case. -/
def lowered (term : Term) : Term :=
  { term with key := term.key.map lowerAscii, value := lowerAscii term.value }

/-- Every letter of ASCII is a letter of keys. -/
theorem is_key_letter_ascii_lower (c : Char) : isKeyLetter (asciiLower c) = isKeyLetter c := by
  refine of_ascii_lower (b := true) (fun c hletter => ?_) c
  rw [isKeyLetter, hletter]
  rfl

/-- The comparison in front of a text in lower case is that in front of the text. -/
theorem read_comparison_map_ascii_lower (cs : List Char) :
    readComparison? (cs.map asciiLower) =
      (readComparison? cs).map fun read => (read.1, read.2.map asciiLower) := by
  rw [readComparison?, readComparison?]
  induction Comparison.longestFirst with
  | nil => rfl
  | cons comparison others ih =>
      rw [List.findSome?_cons, List.findSome?_cons, comparison.strip_map_ascii_lower, ih]
      cases comparison.strip? cs with
      | none => rfl
      | some value => cases value <;> rfl

/-- A body in lower case is a comparison if the body is. -/
theorem compared_map_ascii_lower (body : List Char) :
    compared? (body.map asciiLower) =
      (compared? body).map fun (key, comparison, value) =>
        (lowerAscii key, comparison, lowerAscii value) := by
  have hletter : isKeyLetter ∘ asciiLower = isKeyLetter := funext is_key_letter_ascii_lower
  simp only [compared?, List.takeWhile_map, List.dropWhile_map, hletter,
    read_comparison_map_ascii_lower, List.isEmpty_map]
  split_ifs
  · rfl
  · cases readComparison? (body.dropWhile isKeyLetter) with
    | none => rfl
    | some read => simp [lowerAscii]

/-- A body in lower case is taken apart at the colon of the body. -/
theorem keyed_map_ascii_lower (body : List Char) :
    keyed? (body.map asciiLower) =
      (keyed? body).map fun (key, value) => (lowerAscii key, lowerAscii value) := by
  have hcolon : (· != ':') ∘ asciiLower = (· != ':') := by
    refine funext fun c => ?_
    rw [Function.comp_apply, Bool.eq_iff_iff, bne_iff_ne, bne_iff_ne, ne_eq,
      ascii_lower_eq_iff (by decide)]
  rw [keyed?, List.takeWhile_map, List.dropWhile_map, hcolon, keyed?]
  cases body.dropWhile (· != ':') with
  | nil => rfl
  | cons _ value =>
      simp only [List.map_cons, List.isEmpty_map]
      split_ifs
      · rfl
      · simp [lowerAscii]

/-- A body in lower case is taken apart as the body is. -/
theorem of_body_map_ascii_lower (negated : Bool) (body : List Char) :
    ofBody negated (body.map asciiLower) = (ofBody negated body).lowered := by
  rw [ofBody, compared_map_ascii_lower, keyed_map_ascii_lower, ofBody]
  cases compared? body with
  | some _ => rfl
  | none =>
      cases keyed? body with
      | some _ => rfl
      | none => simp [lowered, lowerAscii]

/-- A token in lower case is taken apart as the token is. -/
theorem parse_lower_ascii (token : String) : parse (lowerAscii token) = (parse token).lowered := by
  rw [parse, to_list_lower_ascii, parse]
  cases token.toList with
  | nil => exact of_body_map_ascii_lower false []
  | cons c body =>
      by_cases hdash : c = '-'
      · subst hdash
        cases body with
        | nil => exact of_body_map_ascii_lower false ['-']
        | cons d body => exact of_body_map_ascii_lower true (d :: body)
      · have hdash' : asciiLower c ≠ '-' := mt (ascii_lower_eq_iff (by decide)).1 hdash
        rw [List.map_cons]
        split
        · rename_i heq
          exact absurd (List.cons_eq_cons.1 heq).1 hdash'
        · split
          · rename_i heq
            exact absurd (List.cons_eq_cons.1 heq).1 hdash
          · exact of_body_map_ascii_lower false (c :: body)

end Term

end CardCatalog
