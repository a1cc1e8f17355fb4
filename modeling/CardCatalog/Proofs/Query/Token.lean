import CardCatalog.Query.Token
import CardCatalog.Query.Tree

/-!
# Tokens of texts put together

Where no quote is open, the tokens of a text end with the token that is being read. If what follows
starts with a parenthesis or with white space, its tokens therefore come after those of the text
(`split_append`), and texts with spaces between them have the tokens of each (`tokenize_intercalate`). The
symbols of tokens that follow each other are the symbols of each, except where a dash meets an opening
parenthesis (`of_tokens_append`).
-/

namespace CardCatalog

namespace Token

/-- The quote that is open after some characters, given the one that is open before them. -/
def openQuote (quote : Option Char) : List Char → Option Char
  | [] => quote
  | c :: rest =>
      match quote with
      | some q => openQuote (if c = q then none else some q) rest
      | none => openQuote (if isQuote c then some c else none) rest

/-- What one character does: it is a quote, it belongs to the token that is being read, it is a token of
its own, or it ends the token before it. -/
theorem scan_cons_cases (quote : Option Char) (c : Char) (cs : List Char) :
    ∃ next, scan quote (c :: cs) = scan next cs ∨
      scan quote (c :: cs) = (c :: (scan next cs).1, (scan next cs).2) ∨
      scan quote (c :: cs) = ([], [c] :: split next cs) ∨
      scan quote (c :: cs) = ([], split next cs) := by
  cases quote with
  | some q =>
      by_cases hclose : c = q
      · exact ⟨none, .inl (by simp only [scan, if_pos hclose])⟩
      · exact ⟨some q, .inr (.inl (by simp only [scan, if_neg hclose]))⟩
  | none =>
      by_cases hopen : isQuote c
      · exact ⟨some c, .inl (by simp only [scan, if_pos hopen])⟩
      · refine ⟨none, .inr ?_⟩
        by_cases hparen : isParen c
        · exact .inr (.inl (by simp only [scan, split, if_neg hopen, if_pos hparen]))
        · by_cases hspace : Text.isWhiteSpace c
          · exact .inr (.inr (by simp only [scan, split, if_neg hopen, if_neg hparen, if_pos hspace]))
          · exact .inl (by simp only [scan, if_neg hopen, if_neg hparen, if_neg hspace])

/-- Tokens that follow are not affected by a token in front. -/
theorem flush_append (token : List Char) (others following : List (List Char)) :
    flush token (others ++ following) = flush token others ++ following := by
  cases token with
  | nil => rfl
  | cons c token => rfl

/-- A text that starts with a token of its own leaves the token before it as it is. -/
theorem scan_append {quote : Option Char} {cs ds : List Char} (hquote : openQuote quote cs = none)
    (hstart : (scan none ds).1 = []) :
    scan quote (cs ++ ds) = ((scan quote cs).1, (scan quote cs).2 ++ (scan none ds).2) := by
  induction cs generalizing quote with
  | nil =>
      obtain rfl : quote = none := hquote
      rw [List.nil_append, scan, List.nil_append, ← hstart]
  | cons c cs ih =>
      cases quote with
      | some q =>
          by_cases hclose : c = q
          · have hclosed : openQuote none cs = none := by simpa [openQuote, hclose] using hquote
            have hrest := ih hclosed
            simp only [List.cons_append, scan, if_pos hclose, hrest]
          · have hopened : openQuote (some q) cs = none := by simpa [openQuote, hclose] using hquote
            have hrest := ih hopened
            simp only [List.cons_append, scan, if_neg hclose, hrest]
      | none =>
          by_cases hopen : isQuote c
          · have hopened : openQuote (some c) cs = none := by simpa [openQuote, hopen] using hquote
            have hrest := ih hopened
            simp only [List.cons_append, scan, if_pos hopen, hrest]
          · have hclosed : openQuote none cs = none := by simpa [openQuote, hopen] using hquote
            have hrest := ih hclosed
            -- A parenthesis or a space flushes the token after it, wherever that token ends.
            simp only [List.cons_append, scan, if_neg hopen, hrest, flush_append]
            by_cases hparen : isParen c
            · simp only [if_pos hparen, List.cons_append]
            · by_cases hspace : Text.isWhiteSpace c
              · simp only [if_neg hparen, if_pos hspace]
              · simp only [if_neg hparen, if_neg hspace]

/-- The tokens of a text that starts with a token of its own come after those of a text that leaves
no quote open. -/
theorem split_append {quote : Option Char} {cs ds : List Char} (hquote : openQuote quote cs = none)
    (hstart : (scan none ds).1 = []) : split quote (cs ++ ds) = split quote cs ++ split none ds := by
  rw [split, scan_append hquote hstart, flush_append, split, split, hstart]
  rfl

end Token

/-- The quote that is open after some characters and others is that after the others. -/
theorem Token.open_quote_append (quote : Option Char) (cs ds : List Char) :
    openQuote quote (cs ++ ds) = openQuote (openQuote quote cs) ds := by
  induction cs generalizing quote with
  | nil => rfl
  | cons c cs ih =>
      cases quote with
      | some q => exact ih _
      | none => exact ih _

/-- Every quote in the query is closed. -/
def QuotesClosed (query : String) : Prop :=
  Token.openQuote none query.toList = none

instance (query : String) : Decidable (QuotesClosed query) :=
  inferInstanceAs (Decidable (Token.openQuote none query.toList = none))

/-- Texts put together have their quotes closed if each of them does. -/
theorem QuotesClosed.append {query next : String} (h : QuotesClosed query) (hnext : QuotesClosed next) :
    QuotesClosed (query ++ next) := by
  rw [QuotesClosed, String.toList_append, Token.open_quote_append, h]
  exact hnext

/-- The tokens of a text that starts with a token of its own come after those of the query before. -/
theorem tokenize_append {query next : String} (h : QuotesClosed query)
    (hstart : (Token.scan none next.toList).1 = []) :
    tokenize (query ++ next) = tokenize query ++ tokenize next := by
  rw [tokenize, String.toList_append, Token.split_append h hstart, List.map_append, tokenize, tokenize]

/-- White space in front of a query is no token. -/
theorem tokenize_space_append (query : String) : tokenize (" " ++ query) = tokenize query := by
  rw [tokenize, String.toList_append]
  rfl

/-- Texts with spaces between them have the tokens of each text, one after the other. -/
theorem tokenize_intercalate {texts : List String} (h : ∀ text ∈ texts, QuotesClosed text) :
    tokenize (String.intercalate " " texts) = texts.flatMap tokenize := by
  induction texts with
  | nil => rfl
  | cons text texts ih =>
      obtain ⟨hfirst, hrest⟩ := List.forall_mem_cons.1 h
      cases texts with
      | nil => rw [String.intercalate_singleton, List.flatMap_singleton]
      | cons next texts =>
          rw [String.intercalate_cons_cons, String.append_assoc,
            tokenize_append hfirst (by rw [String.toList_append]; rfl), tokenize_space_append, ih hrest]
          rfl

/-- A negated query between parentheses has the tokens of the query between its own. -/
theorem tokenize_negated {query : String} (h : QuotesClosed query) :
    tokenize ("-(" ++ query ++ ")") = "-" :: "(" :: (tokenize query ++ [")"]) := by
  have hclosing : Token.split none (query.toList ++ [')']) =
      Token.split none query.toList ++ [[')']] := Token.split_append h rfl
  have hopening (cs : List Char) :
      Token.split none ('-' :: '(' :: cs) = ['-'] :: ['('] :: Token.split none cs := rfl
  have htext : ("-(" ++ query ++ ")").toList = '-' :: '(' :: (query.toList ++ [')']) := by
    rw [String.toList_append, String.toList_append]
    rfl
  rw [tokenize, htext, hopening, hclosing, tokenize, List.map_cons, List.map_cons, List.map_append]
  rfl

namespace Symbol

/-- A token that is no dash before a parenthesis is read on its own. -/
theorem of_tokens_cons {token : String} {rest : List String}
    (h : ¬(token = "-" ∧ rest.head? = some "(")) :
    ofTokens (token :: rest) = ofToken token :: ofTokens rest := by
  cases rest with
  | nil => rw [ofTokens, ofTokens]
  | cons next rest =>
      have hnext : ¬(token = "-" ∧ next = "(") := by simpa using h
      rw [ofTokens, if_neg hnext]

/-- Tokens are read on their own where no dash meets an opening parenthesis. -/
theorem of_tokens_append {tokens following : List String}
    (h : ¬(tokens.getLast? = some "-" ∧ following.head? = some "(")) :
    ofTokens (tokens ++ following) = ofTokens tokens ++ ofTokens following := by
  induction tokens using ofTokens.induct with
  | case1 => rfl
  | case2 token =>
      rw [List.singleton_append, of_tokens_cons (by simpa using h)]
      rfl
  | case3 token next rest hdash ih =>
      have hrest : ¬(rest.getLast? = some "-" ∧ following.head? = some "(") := by
        cases rest with
        | nil => simp
        | cons third rest => exact h
      rw [List.cons_append, List.cons_append, ofTokens, if_pos hdash, ih hrest, ofTokens,
        if_pos hdash, List.cons_append]
  | case4 token next rest hdash ih =>
      rw [List.cons_append, List.cons_append, ofTokens, if_neg hdash, ← List.cons_append, ih h,
        ofTokens, if_neg hdash, List.cons_append]

end Symbol

end CardCatalog
