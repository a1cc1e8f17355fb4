import CardCatalog.Proofs.Query.Balance
import CardCatalog.Proofs.Query.Present
import CardCatalog.Proofs.Query.Token

/-!
# Parentheses beyond the depth limit

A parenthesis beyond the depth limit is passed over, but like every symbol that is no `or` it completes
a group whose last item has just ended. Tokens are therefore read as without these parentheses and
without the `or`s that directly follow them (`run_flatten`). Such an `or` joins nothing, so the query
has more groups than it has without the parentheses alone, and means the same only if no more of them
mean something (`parse_expression_past_limit`).
-/

namespace CardCatalog

/-! ## Without the deep parentheses -/

/-- The tokens without the parentheses that nest deeper than the limit, each with a lone dash directly
before it; with `cut`, an `or` that directly follows one of them is left out too. `after` says that the
next token may be such an `or`, and `opened` counts the parentheses that are open. -/
def Token.flatten (limit : Nat) (cut : Bool) : Bool → Nat → List String → List String
  | _, _, [] => []
  | after, opened, token :: rest =>
      if token = "-" ∧ rest.head? = some "(" ∧ limit ≤ opened then
        flatten limit cut after opened rest
      else if token = "(" then
        if opened < limit then token :: flatten limit cut false (opened + 1) rest
        else flatten limit cut cut (opened + 1) rest
      else if token = ")" then
        if opened ≤ limit then token :: flatten limit cut false (opened - 1) rest
        else flatten limit cut cut (opened - 1) rest
      else if after ∧ Symbol.isOr token then flatten limit cut after opened rest
      else token :: flatten limit cut false opened rest

/-- The tokens of a query without the parentheses beyond the depth limit. -/
def withoutDeepParens (tokens : List String) : List String :=
  Token.flatten QueryTree.maxDepth false false 0 tokens

/-- The tokens of a query without the parentheses beyond the depth limit, and without the `or`s that
directly follow these. -/
def withoutDeepGroups (tokens : List String) : List String :=
  Token.flatten QueryTree.maxDepth true false 0 tokens

namespace Symbol

/-- The symbols without the parentheses that nest deeper than the limit, and without the `or`s that
are to be cut after them. -/
def flatten (limit : Nat) (cut : Bool) : Bool → Nat → List Symbol → List Symbol
  | _, _, [] => []
  | _, opened, .opening negated :: rest =>
      if opened < limit then .opening negated :: flatten limit cut false (opened + 1) rest
      else flatten limit cut cut (opened + 1) rest
  | _, opened, .closing :: rest =>
      if opened ≤ limit then .closing :: flatten limit cut false (opened - 1) rest
      else flatten limit cut cut (opened - 1) rest
  | after, opened, .orWord :: rest =>
      if after then flatten limit cut after opened rest
      else .orWord :: flatten limit cut false opened rest
  | _, opened, .term text :: rest => .term text :: flatten limit cut false opened rest

variable {limit opened : Nat} {cut after : Bool}

/-- Beyond the limit no opening parenthesis is left before a closing one. -/
theorem head_flatten_of_limit_le {tokens : List String} (h : limit ≤ opened) :
    (Token.flatten limit cut after opened tokens).head? ≠ some "(" := by
  induction tokens generalizing after opened with
  | nil => simp [Token.flatten]
  | cons token rest ih =>
      rw [Token.flatten]
      split
      · exact ih h
      · split
        · rw [if_neg (by omega)]
          exact ih (by omega)
        · split
          · split
            · rename_i hclosing _
              simp [hclosing]
            · exact ih (by omega)
          · split
            · exact ih h
            · simpa using ‹¬ token = "("›

/-- An opening parenthesis comes first only where it did before. -/
theorem head_flatten {tokens : List String} (h : tokens.head? ≠ some "(") :
    (Token.flatten limit cut false opened tokens).head? ≠ some "(" := by
  by_cases hlimit : limit ≤ opened
  · exact head_flatten_of_limit_le hlimit
  cases tokens with
  | nil => simp [Token.flatten]
  | cons token rest =>
      have hopening : token ≠ "(" := by simpa using h
      rw [Token.flatten, if_neg (by simp [hlimit]), if_neg hopening]
      split
      · rw [if_pos (by omega)]
        simpa using hopening
      · rw [if_neg (by simp)]
        simpa using hopening

/-- The symbol of a token in front of others is dropped if the token is. -/
theorem of_tokens_flatten_cons {token : String} {rest : List String}
    (htoken : ¬(token = "-" ∧ rest.head? = some "("))
    (hrest : ∀ after opened, ofTokens (Token.flatten limit cut after opened rest) =
      flatten limit cut after opened (ofTokens rest)) :
    ofTokens (Token.flatten limit cut after opened (token :: rest)) =
      flatten limit cut after opened (ofToken token :: ofTokens rest) := by
  rw [Token.flatten, if_neg fun h => htoken ⟨h.1, h.2.1⟩]
  by_cases hopening : token = "("
  · subst hopening
    have hsymbol : ofToken "(" = .opening false := rfl
    rw [if_pos rfl, hsymbol, flatten]
    split
    · rw [of_tokens_cons fun h => absurd h.1 (by decide), hrest, hsymbol]
    · exact hrest _ _
  by_cases hclosing : token = ")"
  · subst hclosing
    have hsymbol : ofToken ")" = .closing := rfl
    rw [if_neg hopening, if_pos rfl, hsymbol, flatten]
    split
    · rw [of_tokens_cons fun h => absurd h.1 (by decide), hrest, hsymbol]
    · exact hrest _ _
  have hfirst : ¬(token = "-" ∧ (Token.flatten limit cut false opened rest).head? = some "(") :=
    fun h => head_flatten (fun hhead => htoken ⟨h.1, hhead⟩) h.2
  rw [if_neg hopening, if_neg hclosing]
  cases hor : isOr token with
  | true =>
      have hsymbol : ofToken token = .orWord := by
        rw [ofToken, if_neg hopening, if_neg hclosing, if_pos hor]
      rw [hsymbol, flatten]
      cases after with
      | true => exact hrest _ _
      | false => rw [if_neg (by simp), of_tokens_cons hfirst, hrest, hsymbol]; rfl
  | false =>
      have hsymbol : ofToken token = .term token := by
        rw [ofToken, if_neg hopening, if_neg hclosing, if_neg (by simp [hor])]
      rw [if_neg (by simp), of_tokens_cons hfirst, hrest, hsymbol, flatten]

/-- The symbols of the tokens without deep parentheses are those without deep parentheses. -/
theorem of_tokens_flatten (tokens : List String) :
    ofTokens (Token.flatten limit cut after opened tokens) =
      flatten limit cut after opened (ofTokens tokens) := by
  induction tokens using ofTokens.induct generalizing after opened with
  | case1 => rfl
  | case2 token => exact of_tokens_flatten_cons (by simp) fun _ _ => rfl
  | case3 token next rest hdash ih =>
      obtain ⟨rfl, rfl⟩ := hdash
      have hor : isOr "-" = false := by decide
      have hsymbols : ofTokens ("-" :: "(" :: rest) = .opening true :: ofTokens rest := by
        rw [ofTokens, if_pos ⟨rfl, rfl⟩]
      rw [hsymbols, Token.flatten]
      by_cases hlimit : opened < limit
      · rw [if_neg (by simp; omega), if_neg (by decide), if_neg (by decide), if_neg (by simp [hor]),
          Token.flatten, if_neg (by simp), if_pos rfl, if_pos hlimit, ofTokens, if_pos ⟨rfl, rfl⟩, ih,
          flatten, if_pos hlimit]
      · rw [if_pos ⟨rfl, rfl, by omega⟩, Token.flatten, if_neg (by simp), if_pos rfl, if_neg hlimit, ih,
          flatten, if_neg hlimit]
  | case4 token next rest hdash ih =>
      rw [ofTokens, if_neg hdash]
      exact of_tokens_flatten_cons (by simpa using hdash) fun _ _ => ih

end Symbol

namespace QueryTree

/-! ## Reading past the limit -/

namespace Level

/-- Where a group has just been completed, no item has just ended. -/
theorem ended_settle (level : Level) : level.settle.ended = false := by
  rw [settle]
  split
  · exact ended_close level
  · simpa using ‹¬ level.ended = true›

/-- Completing the open group leaves nothing to complete. -/
theorem settle_settle (level : Level) : level.settle.settle = level.settle := by
  rw [settle, if_neg (by simp [ended_settle])]

/-- After a completed group an `or` has nothing to join. -/
theorem join_settle (level : Level) : level.settle.join = level.settle := by
  rw [join, ← ended_settle level]

/-- Completing the open group leaves the query that has been read as it is. -/
theorem tree_settle (level : Level) : level.settle.tree = level.tree := by
  rw [settle]
  split
  · rw [tree, close, if_pos (by simp [items_close]), tree]
  · rfl

/-- The level after a parenthesis that is passed over, if one is, since the last symbol that counts. -/
def settleIf (after : Bool) (level : Level) : Level :=
  if after then level.settle else level

/-- Completing the open group twice is completing it once. -/
theorem settle_settle_if (after : Bool) (level : Level) :
    (level.settleIf after).settle = level.settle := by
  cases after with
  | true => exact settle_settle level
  | false => rfl

/-- Completing the open group leaves the query that has been read as it is. -/
theorem tree_settle_if (after : Bool) (level : Level) :
    (level.settleIf after).tree = level.tree := by
  cases after with
  | true => exact tree_settle level
  | false => rfl

end Level

/-- Completing the open group leaves the query that has been read as it is, whatever is open around
it. -/
theorem close_all_settle_if (after : Bool) (level : Level) (outer : List (Bool × Level)) :
    Reader.closeAll (level.settleIf after) outer = Reader.closeAll level outer := by
  cases outer with
  | nil => exact Level.tree_settle_if after level
  | cons enclosing outer => rw [Reader.closeAll, Reader.closeAll, Level.tree_settle_if]

/-- A query is read past the depth limit as it is read without the parentheses beyond the limit and
without the `or`s that directly follow these: such a parenthesis only completes a group. -/
theorem run_flatten {outer : List (Bool × Level)} {level : Level} {skipped : Nat} {after : Bool}
    (houter : outer.length ≤ maxDepth) (hskipped : 0 < skipped → outer.length = maxDepth)
    (symbols : List Symbol) :
    (Reader.run ⟨outer, level.settleIf after, skipped⟩ symbols).1 =
      (Reader.run ⟨outer, level, 0⟩
        (Symbol.flatten maxDepth true after (outer.length + skipped) symbols)).1 := by
  induction symbols generalizing outer level skipped after with
  | nil => exact close_all_settle_if after level outer
  | cons symbol symbols ih =>
      cases symbol with
      | opening negated =>
          rw [Reader.run, Reader.step, Symbol.flatten]
          by_cases hopen : outer.length < maxDepth
          · obtain rfl : skipped = 0 := by omega
            have hrest : (Reader.run ⟨(negated, level.settle) :: outer, Level.start.settleIf false, 0⟩
                symbols).1 = _ := ih hopen (by simp)
            simp only [hopen, Level.settle_settle_if, if_true, Nat.add_zero]
            rw [Reader.run, Reader.step, if_pos hopen]
            exact hrest
          · have hlimit : ¬ outer.length + skipped < maxDepth := by omega
            have hrest : (Reader.run ⟨outer, level.settleIf true, skipped + 1⟩ symbols).1 = _ :=
              ih houter (by omega)
            simp only [hopen, hlimit, Level.settle_settle_if, if_false]
            exact hrest
      | closing =>
          rw [Reader.run, Reader.step, Symbol.flatten]
          cases skipped with
          | succ skipped =>
              have hlimit : ¬ outer.length + (skipped + 1) ≤ maxDepth := by omega
              have hrest : (Reader.run ⟨outer, level.settleIf true, skipped⟩ symbols).1 = _ :=
                ih houter (by omega)
              simp only [hlimit, Level.settle_settle_if, if_false]
              exact hrest
          | zero =>
              rw [if_pos (by omega), Reader.run, Reader.step]
              cases outer with
              | nil => exact close_all_settle_if after level []
              | cons enclosing outer =>
                  obtain ⟨negated, enclosing⟩ := enclosing
                  have hrest : (Reader.run ⟨outer,
                      (enclosing.push (.nested negated level.tree)).settleIf false, 0⟩ symbols).1 = _ :=
                    ih (by simp at houter; omega) (by simp)
                  simp only [Level.tree_settle_if]
                  exact hrest
      | orWord =>
          rw [Reader.run, Reader.step, Symbol.flatten]
          cases after with
          | true =>
              have hrest : (Reader.run ⟨outer, level.settleIf true, skipped⟩ symbols).1 = _ :=
                ih houter hskipped
              have hjoin : (level.settleIf true).join = level.settleIf true := Level.join_settle level
              simp only [hjoin]
              exact hrest
          | false =>
              have hrest : (Reader.run ⟨outer, level.join.settleIf false, skipped⟩ symbols).1 = _ :=
                ih houter hskipped
              exact hrest
      | term text =>
          have hrest : (Reader.run ⟨outer, (level.settle.push (.term text)).settleIf false, skipped⟩
              symbols).1 = _ := ih houter hskipped
          rw [Reader.run, Reader.step, Symbol.flatten, Reader.run, Reader.step]
          simp only [Level.settle_settle_if]
          exact hrest

end QueryTree

/-- Where the `or`s after deep parentheses are cut, they are all that is missing. -/
theorem Symbol.ors_dropped_flatten {limit opened : Nat} (after : Bool) (symbols : List Symbol) :
    OrsDropped (flatten limit true after opened symbols)
      (flatten limit false false opened symbols) := by
  induction symbols generalizing opened after with
  | nil => exact .nil
  | cons symbol symbols ih =>
      cases symbol with
      | opening negated =>
          rw [flatten, flatten]
          split
          · exact .keep _ (ih false)
          · exact ih true
      | closing =>
          rw [flatten, flatten]
          split
          · exact .keep _ (ih false)
          · exact ih true
      | orWord =>
          rw [flatten, flatten, if_neg (by decide : ¬ false = true)]
          split
          · exact .drop (ih after)
          · exact .keep _ (ih false)
      | term text => exact .keep _ (ih false)

namespace QueryTree

/-- The query of some tokens, up to a closing parenthesis that closes nothing. -/
def ofTokens (tokens : List String) : QueryTree :=
  (readPart (Symbol.ofTokens tokens)).1

/-- Tokens are read as without the deep parentheses and the `or`s that directly follow them. -/
theorem of_tokens_without_deep_groups (tokens : List String) :
    ofTokens tokens = ofTokens (withoutDeepGroups tokens) := by
  rw [ofTokens, ofTokens, withoutDeepGroups, Symbol.of_tokens_flatten]
  have hrun : (Reader.run ⟨[], Level.start.settleIf false, 0⟩ (Symbol.ofTokens tokens)).1 = _ :=
    run_flatten (Nat.zero_le _) (by simp) (Symbol.ofTokens tokens)
  exact hrun

/-- Without the deep parentheses alone, each group is put together from those that are read. -/
theorem groups_split_without_deep_parens (tokens : List String) :
    GroupsSplit (ofTokens tokens) (ofTokens (withoutDeepParens tokens)) := by
  rw [of_tokens_without_deep_groups, ofTokens, ofTokens, withoutDeepGroups, withoutDeepParens,
    Symbol.of_tokens_flatten, Symbol.of_tokens_flatten]
  exact groups_split_read_part (Symbol.ors_dropped_flatten false _)

end QueryTree

/-- Tokens mean what they mean without the parentheses beyond the depth limit and without the `or`s that
directly follow these. With those `or`s left in place they mean the same exactly if as many groups mean
something. -/
theorem parse_expression_past_limit (tokens : List String) :
    (parseExpression tokens 0).1 = (parseExpression (withoutDeepGroups tokens) 0).1 ∧
      ((parseExpression tokens 0).1 = (parseExpression (withoutDeepParens tokens) 0).1 ↔
        presentGroups (QueryTree.ofTokens tokens) =
          presentGroups (QueryTree.ofTokens (withoutDeepParens tokens))) := by
  have hparse (tokens : List String) :
      (parseExpression tokens 0).1 = (QueryTree.ofTokens tokens).meaning? := rfl
  rw [hparse, hparse, hparse]
  exact ⟨by rw [← QueryTree.of_tokens_without_deep_groups],
    (QueryTree.groups_split_without_deep_parens tokens).meaning_eq_iff⟩

/-- A query at the depth limit, with a nested term before an `or`. -/
def deepAlternatives : List String :=
  List.replicate 65 "(" ++ ["t:elf", ")", "or", "t:goblin"] ++ List.replicate 64 ")"

/-- The alternatives of a query are not kept together past the depth limit: the closing parenthesis
that is passed over stands between a term and the `or` after it. -/
theorem or_lost_past_limit :
    ¬ ∀ limit tokens, ParensBalanced limit tokens →
      (parseExpression tokens 0).1 = (parseExpression (withoutDeepParens tokens) 0).1 := by
  intro h
  have hbalanced : ParensBalanced 65 deepAlternatives := by decide +kernel
  exact absurd (h 65 deepAlternatives hbalanced) (by decide +kernel)

end CardCatalog
