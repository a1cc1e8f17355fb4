import CardCatalog.Proofs.Query.Negation
import CardCatalog.Proofs.Query.NormalForm
import CardCatalog.Proofs.Query.Parts
import CardCatalog.Proofs.Query.Token

/-!
# Queries put together

What a query means is the conjunction of the groups of all its parts (`compile_eq_all_of_groups`). The
parentheses that a query leaves open are therefore closed by its end (`compile_append_closing`), and one
query after another means the conjunction of both, the same tree as that of the two predicates
(`compile_append`).
-/

namespace CardCatalog

/-! ## Queries that leave nothing open -/

/-- Each opening parenthesis among the tokens is closed by a later one. There may be more closing ones. A
quoted parenthesis that makes up a token is one of them, since it is read as one. -/
def ParensClosed (tokens : List String) : Prop :=
  ∀ last, last <:+ tokens → last.count "(" ≤ last.count ")"

instance (tokens : List String) : Decidable (ParensClosed tokens) :=
  decidable_of_iff (∀ last ∈ tokens.tails, last.count "(" ≤ last.count ")")
    ⟨fun h last hlast => h last ((List.mem_tails _ _).2 hlast),
      fun h last hlast => h last ((List.mem_tails _ _).1 hlast)⟩

/-- No more parentheses are open after some tokens than any end of them opens without closing. -/
theorem Token.foldl_open_after_le {bound : Nat} {tokens : List String}
    (h : ∀ last, last <:+ tokens → last.count "(" ≤ last.count ")" + bound) :
    tokens.foldl openAfter 0 ≤ bound := by
  -- By induction from the last token backwards: it opens or closes at most one parenthesis.
  induction tokens using List.reverseRecOn generalizing bound with
  | nil => exact Nat.zero_le bound
  | append_singleton tokens token ih =>
      have hlast (last : List String) (hsuffix : last <:+ tokens) :
          last.count "(" + [token].count "(" ≤ last.count ")" + [token].count ")" + bound := by
        obtain ⟨first, rfl⟩ := hsuffix
        have hcount := h (last ++ [token]) ⟨first, by rw [List.append_assoc]⟩
        rwa [List.count_append, List.count_append] at hcount
      rw [List.foldl_concat, openAfter]
      by_cases hopening : token = "("
      · subst hopening
        have hopened := h ["("] (List.suffix_append tokens ["("])
        simp at hopened hlast
        have hrest : tokens.foldl openAfter 0 ≤ bound - 1 := ih fun last hsuffix => by
          have hcount := hlast last hsuffix
          omega
        rw [if_pos rfl]
        omega
      · rw [if_neg hopening]
        by_cases hclosing : token = ")"
        · subst hclosing
          simp at hlast
          have hrest : tokens.foldl openAfter 0 ≤ bound + 1 := ih fun last hsuffix => by
            have hcount := hlast last hsuffix
            omega
          rw [if_pos rfl]
          omega
        · rw [if_neg hclosing]
          exact ih fun last hsuffix => by simpa [hopening, hclosing] using hlast last hsuffix

/-- A reading has nothing open after tokens whose opening parentheses are all closed. -/
theorem opened_after_of_parens_closed {tokens : List String} (h : ParensClosed tokens) :
    (QueryTree.Reader.start.after (Symbol.ofTokens tokens)).opened = 0 := by
  have hopened := (QueryTree.Reader.opened_after QueryTree.Reader.skips_at_limit_start
    (Symbol.ofTokens tokens)).2
  have hle : tokens.foldl Token.openAfter 0 ≤ 0 := Token.foldl_open_after_le h
  rw [hopened, Symbol.foldl_open_after_of_tokens]
  exact Nat.le_zero.1 hle

namespace Symbol

/-- The symbol of a token is an `or` only if the token is. -/
theorem of_token_ne_or {token : String} (h : isOr token = false) : ofToken token ≠ .orWord := by
  rcases of_token_cases token with ⟨_, htoken⟩ | ⟨_, htoken⟩ | ⟨_, ⟨hor, _⟩ | htoken⟩
  · simp [htoken]
  · simp [htoken]
  · exact absurd (hor.symm.trans h) (by simp)
  · simp [htoken]

/-- The first symbol of tokens is an `or` only if the first token is. -/
theorem head_of_tokens_ne {tokens : List String} (h : ∀ token ∈ tokens.head?, isOr token = false) :
    (ofTokens tokens).head? ≠ some .orWord := by
  induction tokens using ofTokens.induct with
  | case1 => simp [ofTokens]
  | case2 token => exact fun hhead => of_token_ne_or (h token rfl) (Option.some.inj hhead)
  | case3 token next rest hdash ih => simp [ofTokens, hdash]
  | case4 token next rest hdash ih =>
      rw [ofTokens, if_neg hdash]
      exact fun hhead => of_token_ne_or (h token rfl) (Option.some.inj hhead)

/-- Tokens have a symbol if there are any. -/
theorem of_tokens_cons_ne_nil (token : String) (rest : List String) : ofTokens (token :: rest) ≠ [] := by
  cases rest with
  | nil => simp [ofTokens]
  | cons next rest =>
      rw [ofTokens]
      split <;> simp

/-- The last symbol of tokens is an `or` only if the last token is. -/
theorem last_of_tokens_ne {tokens : List String}
    (h : ∀ token ∈ tokens.getLast?, isOr token = false) :
    (ofTokens tokens).getLast? ≠ some .orWord := by
  induction tokens using ofTokens.induct with
  | case1 => simp [ofTokens]
  | case2 token => exact fun hlast => of_token_ne_or (h token rfl) (Option.some.inj hlast)
  | case3 token next rest hdash ih =>
      rw [ofTokens, if_pos hdash]
      cases rest with
      | nil => simp [ofTokens]
      | cons third rest =>
          rw [List.getLast?_cons_of_ne_nil (of_tokens_cons_ne_nil third rest)]
          exact ih h
  | case4 token next rest hdash ih =>
      rw [ofTokens, if_neg hdash, List.getLast?_cons_of_ne_nil (of_tokens_cons_ne_nil next rest)]
      exact ih h

end Symbol

/-! ## The predicates of queries put together -/

/-- The groups of a query are in normal form, in whichever part they stand. -/
theorem is_normal_of_mem_groups (symbols : List Symbol) :
    ∀ p ∈ (QueryTree.readAll symbols).flatMap groupMeanings, p.IsNormal := by
  intro p hp
  obtain ⟨tree, _, hp⟩ := List.mem_flatMap.1 hp
  exact is_normal_of_mem_group_meanings p hp

/-- A query means the conjunction of the groups of all its parts. -/
theorem compile_eq_all_of_groups (query : String) :
    compile query =
      .allOf ((QueryTree.readAll (Symbol.ofTokens (tokenize query))).flatMap groupMeanings) := by
  have hparts (trees : List QueryTree) :
      (trees.filterMap QueryTree.meaning?).flatMap Predicate.conjuncts =
        (trees.flatMap groupMeanings).flatMap Predicate.conjuncts := by
    induction trees with
    | nil => rfl
    | cons tree trees ih =>
        rw [List.filterMap_cons, List.flatMap_cons, List.flatMap_append, ← ih, QueryTree.meaning?]
        cases hgroups : groupMeanings tree with
        | nil => rfl
        | cons group groups =>
            have hnormal : ∀ p ∈ group :: groups, p.IsNormal := by
              rw [← hgroups]
              exact is_normal_of_mem_group_meanings
            rw [← Predicate.conjuncts_all_of hnormal]
            rfl
  rw [compile, Predicate.allOf, hparts, Predicate.allOf]

/-- A closing parenthesis in front of a query is a token of its own. -/
theorem tokenize_closing_append (query : String) :
    tokenize (" ) " ++ query) = ")" :: tokenize query := by
  rw [tokenize, String.toList_append]
  rfl

/-- A closing parenthesis at the end of a query changes nothing. -/
theorem compile_concat_closing {query : String} (h : QuotesClosed query) :
    compile (query ++ ")") = compile query := by
  have htokens : tokenize (query ++ ")") = tokenize query ++ [")"] := tokenize_append h rfl
  have hclosing : Symbol.ofTokens [")"] = [.closing] := rfl
  rw [compile_eq_all_of_groups, compile_eq_all_of_groups, htokens,
    Symbol.of_tokens_append (by simp), hclosing, QueryTree.group_meanings_concat_closing]

/-- Closing parentheses at the end of a query change nothing, however many of them there are: what is
open is closed by the end of the query, and those that close nothing are passed over. -/
theorem compile_append_closing {query : String} (h : QuotesClosed query) (count : Nat) :
    compile (query ++ String.ofList (List.replicate count ')')) = compile query := by
  have hquotes (count : Nat) : QuotesClosed (String.ofList (List.replicate count ')')) := by
    rw [QuotesClosed, String.toList_ofList]
    induction count with
    | zero => rfl
    | succ count ih => exact ih
  induction count with
  | zero => rw [List.replicate_zero, String.ofList_nil, String.append_empty]
  | succ count ih =>
      rw [List.replicate_succ', String.ofList_append, ← String.append_assoc]
      exact (compile_concat_closing (h.append (hquotes count))).trans ih

/-- Five closing parentheses after a query with two open groups and an `or` at its end are two for these
groups and three that close nothing. -/
theorem compile_append_closing_unclosed :
    QuotesClosed "t:elf -(o:draw or (mv>2 or" ∧
      compile ("t:elf -(o:draw or (mv>2 or" ++ String.ofList (List.replicate 5 ')')) =
        .all [.test (.matchesPattern .typeLine "elf"),
          .not (.any [.test (.matchesPattern .oracleText "draw"),
            .test (.compare .manaValue .gt 2)])] := by
  have hquotes : QuotesClosed "t:elf -(o:draw or (mv>2 or" := by decide
  have hread : QueryTree.readPart (Symbol.ofTokens (tokenize "t:elf -(o:draw or (mv>2 or")) =
      ([[.term "t:elf"], [.nested true [[.term "o:draw", .nested false [[.term "mv>2"]]]]]], []) :=
    rfl
  exact ⟨hquotes, (compile_append_closing hquotes 5).trans (compile_of_read_part hread)⟩

/-- A query that leaves nothing open and the query after it mean the conjunction of both. A closing
parenthesis between them separates any two queries; without it an `or` must not join them, and no dash
meet an opening parenthesis. -/
theorem compile_append {a b : String} (hquotes : QuotesClosed a) (hparens : ParensClosed (tokenize a)) :
    compile (a ++ " ) " ++ b) = .allOf [compile a, compile b] ∧
      ((∀ token ∈ (tokenize a).getLast?, Symbol.isOr token = false) →
        (∀ token ∈ (tokenize b).head?, Symbol.isOr token = false) →
        ¬((tokenize a).getLast? = some "-" ∧ (tokenize b).head? = some "(") →
          compile (a ++ " " ++ b) = .allOf [compile a, compile b]) := by
  have hopened := opened_after_of_parens_closed hparens
  have hnormal (query : String) := is_normal_of_mem_groups (Symbol.ofTokens (tokenize query))
  rw [compile_eq_all_of_groups a, compile_eq_all_of_groups b,
    Predicate.all_of_pair (hnormal a) (hnormal b)]
  constructor
  · have htokens : tokenize (a ++ (" ) " ++ b)) = tokenize a ++ ")" :: tokenize b := by
      rw [tokenize_append hquotes (by rw [String.toList_append]; rfl), tokenize_closing_append]
    rw [String.append_assoc, compile_eq_all_of_groups, htokens, Symbol.of_tokens_append (by simp),
      Symbol.of_tokens_cons (by simp), Symbol.of_token_eq_closing_iff.2 rfl,
      QueryTree.read_all_append_closing hopened, List.flatMap_append]
  · intro hlast hfirst hdash
    have htokens : tokenize (a ++ (" " ++ b)) = tokenize a ++ tokenize b := by
      rw [tokenize_append hquotes (by rw [String.toList_append]; rfl), tokenize_space_append]
    obtain ⟨before, last, first, others, hreadA, hreadB, hread⟩ :=
      QueryTree.read_all_append hopened (Symbol.last_of_tokens_ne hlast)
        (Symbol.head_of_tokens_ne hfirst)
    rw [String.append_assoc, compile_eq_all_of_groups, htokens, Symbol.of_tokens_append hdash, hread,
      hreadA, hreadB]
    simp [group_meanings_append]

/-- A query with a parenthesis that closes nothing, and a query with one that is never closed. -/
theorem compile_append_unbalanced :
    QuotesClosed "t:elf ) -(o:draw)" ∧ ParensClosed (tokenize "t:elf ) -(o:draw)") ∧
      (∀ token ∈ (tokenize "t:elf ) -(o:draw)").getLast?, Symbol.isOr token = false) ∧
      (∀ token ∈ (tokenize "(c:g or mv>2 ) or (zzz:1").head?, Symbol.isOr token = false) ∧
      ¬((tokenize "t:elf ) -(o:draw)").getLast? = some "-" ∧
        (tokenize "(c:g or mv>2 ) or (zzz:1").head? = some "(") ∧
      compile ("t:elf ) -(o:draw)" ++ " ) " ++ "(c:g or mv>2 ) or (zzz:1") =
        .allOf [compile "t:elf ) -(o:draw)", compile "(c:g or mv>2 ) or (zzz:1"] ∧
      compile ("t:elf ) -(o:draw)" ++ " " ++ "(c:g or mv>2 ) or (zzz:1") =
        .allOf [compile "t:elf ) -(o:draw)", compile "(c:g or mv>2 ) or (zzz:1"] := by
  have hquotes : QuotesClosed "t:elf ) -(o:draw)" := by decide
  have hparens : ParensClosed (tokenize "t:elf ) -(o:draw)") := by decide
  have hlast : ∀ token ∈ (tokenize "t:elf ) -(o:draw)").getLast?, Symbol.isOr token = false := by
    decide
  have hfirst : ∀ token ∈ (tokenize "(c:g or mv>2 ) or (zzz:1").head?,
      Symbol.isOr token = false := by decide
  have hdash : ¬((tokenize "t:elf ) -(o:draw)").getLast? = some "-" ∧
      (tokenize "(c:g or mv>2 ) or (zzz:1").head? = some "(") := by decide
  obtain ⟨hseparated, hadjacent⟩ := compile_append hquotes hparens
  exact ⟨hquotes, hparens, hlast, hfirst, hdash, hseparated, hadjacent hlast hfirst hdash⟩

end CardCatalog
