import CardCatalog.Proofs.Query.Quoted
import CardCatalog.Query.Compile
import Mathlib.Data.List.Basic

/-!
# Spacing

A text without quotes falls into parentheses and words. `Token.Spells` says so without the scanner: white
space may stand anywhere between two tokens and must stand between two words. It determines the tokens
(`split_eq_iff_spells`), and what is known of them is read off it: each is a parenthesis or a word, they
are the text without its white space, and they are the tokens of the text that has one space between them
and no others (`tokenize_without_quotes`).
-/

namespace CardCatalog

open CardCatalog.Text

namespace Token

/-- The characters make up a word: there are some, and none of them ends a token. -/
def IsWord (cs : List Char) : Prop :=
  cs ≠ [] ∧ ∀ c ∈ cs, isParen c = false ∧ isWhiteSpace c = false

/-- No word goes on with the text: it is empty, or starts with a parenthesis or with white space. -/
def EndsWord (cs : List Char) : Prop :=
  ∀ c ∈ cs.head?, isParen c = true ∨ isWhiteSpace c = true

/-- The text spells the tokens: each is a parenthesis or a word as long as can be, and white space stands
between them or not. -/
inductive Spells : List (List Char) → List Char → Prop where
  | nil : Spells [] []
  | space {c : Char} {tokens : List (List Char)} {cs : List Char} (hspace : isWhiteSpace c = true)
      (hrest : Spells tokens cs) : Spells tokens (c :: cs)
  | paren {c : Char} {tokens : List (List Char)} {cs : List Char} (hparen : isParen c = true)
      (hrest : Spells tokens cs) : Spells ([c] :: tokens) (c :: cs)
  | word {token cs : List Char} {tokens : List (List Char)} (hword : IsWord token)
      (hends : EndsWord cs) (hrest : Spells tokens cs) : Spells (token :: tokens) (token ++ cs)

/-- A parenthesis is one of two characters. -/
theorem is_paren_iff {c : Char} : isParen c = true ↔ c = '(' ∨ c = ')' := by
  rw [isParen, Bool.or_eq_true, beq_iff_eq, beq_iff_eq]

/-- A parenthesis is no white space. -/
theorem not_white_space_of_paren {c : Char} (h : isParen c = true) : isWhiteSpace c = false := by
  obtain rfl | rfl := is_paren_iff.1 h
  · decide
  · decide

/-- White space is no parenthesis. -/
theorem not_paren_of_white_space {c : Char} (h : isWhiteSpace c = true) : isParen c = false := by
  cases hparen : isParen c with
  | false => rfl
  | true => exact absurd h (by simp [not_white_space_of_paren hparen])

/-! ## The tokens that a text spells -/

namespace Spells

variable {tokens : List (List Char)} {cs : List Char}

/-- A token that ends in front of the text is spelt first, if it is not empty. -/
theorem flush {token : List Char} (h : Spells tokens cs) (hends : EndsWord cs)
    (htoken : ∀ c ∈ token, isParen c = false ∧ isWhiteSpace c = false) :
    Spells (flush token tokens) (token ++ cs) := by
  cases token with
  | nil => exact h
  | cons c token => exact .word ⟨List.cons_ne_nil c token, htoken⟩ hends h

/-- A token is a parenthesis or a word. -/
theorem paren_or_word (h : Spells tokens cs) :
    ∀ token ∈ tokens, token = ['('] ∨ token = [')'] ∨ IsWord token := by
  induction h with
  | nil => simp
  | space _ _ ih => exact ih
  | paren hparen _ ih =>
      refine List.forall_mem_cons.2 ⟨?_, ih⟩
      obtain rfl | rfl := is_paren_iff.1 hparen
      · exact .inl rfl
      · exact .inr (.inl rfl)
  | word hword _ _ ih => exact List.forall_mem_cons.2 ⟨.inr (.inr hword), ih⟩

/-- The tokens are the text without its white space. -/
theorem flatten_eq_filter (h : Spells tokens cs) :
    tokens.flatten = cs.filter fun c => !isWhiteSpace c := by
  induction h with
  | nil => rfl
  | space hspace _ ih => rw [List.filter_cons_of_neg (by simp [hspace]), ih]
  | paren hparen _ ih =>
      rw [List.filter_cons_of_pos (by simp [not_white_space_of_paren hparen]), List.flatten_cons, ih,
        List.singleton_append]
  | word hword _ _ ih =>
      rw [List.filter_append, List.filter_eq_self.2 (by simpa using fun c hc => (hword.2 c hc).2),
        List.flatten_cons, ih]

/-- The characters of the tokens are characters of the text. -/
theorem subset (h : Spells tokens cs) {token : List Char} (htoken : token ∈ tokens) : token ⊆ cs := by
  intro c hc
  have hmem : c ∈ tokens.flatten := List.mem_flatten.2 ⟨token, htoken, hc⟩
  rw [h.flatten_eq_filter] at hmem
  exact (List.mem_filter.1 hmem).1

end Spells

/-! ## Splitting -/

section

variable {cs : List Char} (hquote : ∀ c ∈ cs, isQuote c = false)
include hquote

/-- The scanner leaves a word that ends where the text that spells the other tokens starts. -/
theorem exists_spells_scan :
    ∃ rest, cs = (scan none cs).1 ++ rest ∧
      (∀ c ∈ (scan none cs).1, isParen c = false ∧ isWhiteSpace c = false) ∧
      EndsWord rest ∧ Spells (scan none cs).2 rest := by
  induction cs with
  | nil => exact ⟨[], rfl, by simp [scan], by simp [EndsWord], .nil⟩
  | cons c cs ih =>
      obtain ⟨hc, hcs⟩ := List.forall_mem_cons.1 hquote
      obtain ⟨rest, heq, hword, hends, hrest⟩ := ih hcs
      have hsplit := hrest.flush hends hword
      rw [← heq] at hsplit
      by_cases hparen : isParen c = true
      · simp only [scan, hc, hparen, if_true, Bool.false_eq_true, if_false]
        exact ⟨c :: cs, rfl, by simp, by simp [EndsWord, hparen], .paren hparen hsplit⟩
      · by_cases hspace : isWhiteSpace c = true
        · simp only [scan, hc, hparen, hspace, if_true, Bool.false_eq_true, if_false]
          exact ⟨c :: cs, rfl, by simp, by simp [EndsWord, hspace], .space hspace hsplit⟩
        · simp only [scan, hc, hparen, hspace, Bool.false_eq_true, if_false]
          have hfirst : isParen c = false ∧ isWhiteSpace c = false :=
            ⟨Bool.eq_false_iff.2 hparen, Bool.eq_false_iff.2 hspace⟩
          exact ⟨rest, congrArg (c :: ·) heq, List.forall_mem_cons.2 ⟨hfirst, hword⟩, hends, hrest⟩

/-- A text spells its tokens. -/
theorem spells_split : Spells (split none cs) cs := by
  obtain ⟨rest, heq, hword, hends, hrest⟩ := exists_spells_scan hquote
  have hsplit := hrest.flush hends hword
  rwa [← heq] at hsplit

end

/-- A text that no word goes on with starts with a token of its own. -/
theorem scan_of_ends_word {cs : List Char} (hends : EndsWord cs)
    (hquote : ∀ c ∈ cs, isQuote c = false) : (scan none cs).1 = [] := by
  cases cs with
  | nil => rfl
  | cons c cs =>
      have hc := (List.forall_mem_cons.1 hquote).1
      rcases hends c rfl with hparen | hspace
      · simp only [scan, hc, hparen, Bool.false_eq_true, if_false, if_true]
      · simp only [scan, hc, not_paren_of_white_space hspace, hspace, Bool.false_eq_true, if_false,
          if_true]

/-- The tokens that a text spells are the ones it is split into. -/
theorem Spells.split_eq {tokens : List (List Char)} {cs : List Char} (h : Spells tokens cs)
    (hquote : ∀ c ∈ cs, isQuote c = false) : split none cs = tokens := by
  induction h with
  | nil => rfl
  | space hspace hrest ih =>
      obtain ⟨hc, hcs⟩ := List.forall_mem_cons.1 hquote
      rw [← ih hcs]
      simp only [split, scan, hc, not_paren_of_white_space hspace, hspace, Bool.false_eq_true, if_false,
        if_true]
      rfl
  | paren hparen hrest ih =>
      obtain ⟨hc, hcs⟩ := List.forall_mem_cons.1 hquote
      rw [← ih hcs]
      simp only [split, scan, hc, hparen, Bool.false_eq_true, if_false, if_true]
      rfl
  | @word token cs tokens hword hends hrest ih =>
      obtain ⟨htoken, hcs⟩ := List.forall_mem_append.1 hquote
      have hplain : ∀ c ∈ token, IsPlain c := fun c hc => ⟨htoken c hc, hword.2 c hc⟩
      have hstart := scan_of_ends_word hends hcs
      have hfilled : token.isEmpty = false := by simpa using hword.1
      rw [← ih hcs]
      rw [split, scan_plain_append hplain, split, hstart, List.append_nil, Token.flush, hfilled]
      rfl

/-- A text without quotes is split into the tokens that it spells. -/
theorem split_eq_iff_spells {cs : List Char} (hquote : ∀ c ∈ cs, isQuote c = false)
    {tokens : List (List Char)} : split none cs = tokens ↔ Spells tokens cs := by
  constructor
  · rintro rfl
    exact spells_split hquote
  · intro h
    exact h.split_eq hquote

/-- Characters that are no quotes leave none open. -/
theorem open_quote_of_no_quote {cs : List Char} (h : ∀ c ∈ cs, isQuote c = false) :
    openQuote none cs = none := by
  induction cs with
  | nil => rfl
  | cons c cs ih =>
      obtain ⟨hc, hcs⟩ := List.forall_mem_cons.1 h
      simp only [openQuote, hc, Bool.false_eq_true, if_false]
      exact ih hcs

end Token

/-- A text without quotes is split into the tokens that it spells, as texts. -/
theorem tokenize_eq_iff_spells {query : String} (hquote : ∀ c ∈ query.toList, Token.isQuote c = false)
    {tokens : List String} :
    tokenize query = tokens ↔ Token.Spells (tokens.map String.toList) query.toList := by
  rw [← Token.split_eq_iff_spells hquote, tokenize]
  constructor
  · rintro rfl
    simp [Function.comp_def]
  · intro h
    simp [h, Function.comp_def]

/-- A parenthesis or a word without quotes is one token. -/
theorem tokenize_paren_or_word {token : String} (hquote : ∀ c ∈ token.toList, Token.isQuote c = false)
    (h : token = "(" ∨ token = ")" ∨ Token.IsWord token.toList) : tokenize token = [token] := by
  rcases h with rfl | rfl | hword
  · rfl
  · rfl
  · exact tokenize_plain (by simpa using hword.1) fun c hc => ⟨hquote c hc, hword.2 c hc⟩

/-- A token of a text without quotes is a parenthesis or a word. -/
theorem paren_or_word_of_mem_tokenize {query token : String}
    (hquote : ∀ c ∈ query.toList, Token.isQuote c = false) (h : token ∈ tokenize query) :
    token = "(" ∨ token = ")" ∨ Token.IsWord token.toList := by
  have hspells := (tokenize_eq_iff_spells hquote).1 rfl
  rw [← String.toList_inj, ← String.toList_inj]
  exact hspells.paren_or_word token.toList (List.mem_map_of_mem h)

/-- Tokens of text without quotes, with one space between each and the next, are the tokens again. -/
theorem tokenize_rejoined {query : String} (hquote : ∀ c ∈ query.toList, Token.isQuote c = false) :
    tokenize (String.intercalate " " (tokenize query)) = tokenize query := by
  have hspells := (tokenize_eq_iff_spells hquote).1 rfl
  have hunquoted (token : String) (htoken : token ∈ tokenize query) :
      ∀ c ∈ token.toList, Token.isQuote c = false := by
    intro c hc
    exact hquote c (hspells.subset (List.mem_map_of_mem htoken) hc)
  have hself (token : String) (htoken : token ∈ tokenize query) : tokenize token = [token] :=
    tokenize_paren_or_word (hunquoted token htoken) (paren_or_word_of_mem_tokenize hquote htoken)
  rw [tokenize_intercalate fun token htoken => Token.open_quote_of_no_quote (hunquoted token htoken),
    List.flatMap_congr hself, List.flatMap_singleton']

/-- A query without quotes has the tokens that it spells and no others. Each of them is a parenthesis or a
word, together they are the query without its white space, and the query that has one space between each
and the next has the same tokens and the same predicate. -/
theorem tokenize_without_quotes {query : String}
    (hquote : ∀ c ∈ query.toList, Token.isQuote c = false) :
    (∀ tokens : List String,
      tokenize query = tokens ↔ Token.Spells (tokens.map String.toList) query.toList) ∧
    (∀ token ∈ tokenize query, token = "(" ∨ token = ")" ∨ Token.IsWord token.toList) ∧
    String.join (tokenize query) = String.ofList (query.toList.filter fun c => !isWhiteSpace c) ∧
    tokenize (String.intercalate " " (tokenize query)) = tokenize query ∧
    compile (String.intercalate " " (tokenize query)) = compile query := by
  have hspells := (tokenize_eq_iff_spells hquote).1 rfl
  have hrejoined := tokenize_rejoined hquote
  refine ⟨fun tokens => tokenize_eq_iff_spells hquote,
    fun token htoken => paren_or_word_of_mem_tokenize hquote htoken, ?_, hrejoined, ?_⟩
  · rw [← String.toList_inj, String.toList_join, String.toList_ofList, ← hspells.flatten_eq_filter]
    rfl
  · rw [compile, hrejoined, compile]

/-- A dash that meets a parenthesis, words that meet parentheses, and white space of four kinds. -/
theorem tokenize_without_quotes_negated :
    (∀ c ∈ "-(t:elf\u2003or\tmv>=2)pow:*\n".toList, Token.isQuote c = false) ∧
      tokenize "-(t:elf\u2003or\tmv>=2)pow:*\n" =
        ["-", "(", "t:elf", "or", "mv>=2", ")", "pow:*"] ∧
      compile "- ( t:elf or mv>=2 ) pow:*" = compile "-(t:elf\u2003or\tmv>=2)pow:*\n" := by
  have hnone : "-(t:elf\u2003or\tmv>=2)pow:*\n".toList.any Token.isQuote = false := by decide
  have hquote : ∀ c ∈ "-(t:elf\u2003or\tmv>=2)pow:*\n".toList, Token.isQuote c = false := by
    intro c hc
    exact Bool.eq_false_iff.2 (List.any_eq_false.1 hnone c hc)
  have htokens : tokenize "-(t:elf\u2003or\tmv>=2)pow:*\n" =
      ["-", "(", "t:elf", "or", "mv>=2", ")", "pow:*"] := by
    decide
  obtain ⟨_, _, _, _, hcompile⟩ := tokenize_without_quotes hquote
  rw [htokens] at hcompile
  exact ⟨hquote, htokens, hcompile⟩

end CardCatalog
