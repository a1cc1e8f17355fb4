import CardCatalog.Query.Tree

/-!
# Open parentheses

A reading nests queries up to the depth limit and passes over the parentheses beyond it. Either way it
has as many parentheses open as a count of the symbols says: one more after an opening parenthesis, one
less after a closing one (`opened_step`). Only a closing parenthesis that has nothing to close is left
unread (`step_eq_none_iff`).
-/

namespace CardCatalog

/-- The parentheses that are open after a token. A closing one that closes nothing opens nothing. -/
def Token.openAfter (opened : Nat) (token : String) : Nat :=
  if token = "(" then opened + 1
  else if token = ")" then opened - 1
  else opened

namespace Symbol

/-- The parentheses that are open after a symbol. A closing one that closes nothing opens nothing. -/
def openAfter (opened : Nat) : Symbol → Nat
  | .opening _ => opened + 1
  | .closing => opened - 1
  | .orWord => opened
  | .term _ => opened

/-- The part that a token plays on its own: that of the parenthesis that it is, or else of an `or` or of
a term. -/
theorem of_token_cases (token : String) :
    (token = "(" ∧ ofToken token = .opening false) ∨ (token = ")" ∧ ofToken token = .closing) ∨
      ((token ≠ "(" ∧ token ≠ ")") ∧
        ((isOr token = true ∧ ofToken token = .orWord) ∨ ofToken token = .term token)) := by
  rw [ofToken]
  by_cases hopening : token = "("
  · exact .inl ⟨hopening, if_pos hopening⟩
  by_cases hclosing : token = ")"
  · exact .inr (.inl ⟨hclosing, by rw [if_neg hopening, if_pos hclosing]⟩)
  refine .inr (.inr ⟨⟨hopening, hclosing⟩, ?_⟩)
  rw [if_neg hopening, if_neg hclosing]
  by_cases hor : isOr token = true
  · exact .inl ⟨hor, if_pos hor⟩
  · exact .inr (if_neg hor)

/-- A token on its own is a closing parenthesis exactly if its symbol is. -/
theorem of_token_eq_closing_iff {token : String} : ofToken token = .closing ↔ token = ")" := by
  rcases of_token_cases token with ⟨rfl, h⟩ | ⟨rfl, h⟩ | ⟨⟨_, hclosing⟩, ⟨_, h⟩ | h⟩
  all_goals rw [h]
  · simp
  · simp
  · simp [hclosing]
  · simp [hclosing]

/-- The symbol of a token opens what the token opens. -/
theorem open_after_of_token (opened : Nat) (token : String) :
    openAfter opened (ofToken token) = Token.openAfter opened token := by
  rcases of_token_cases token with ⟨rfl, h⟩ | ⟨rfl, h⟩ | ⟨⟨hopening, hclosing⟩, ⟨_, h⟩ | h⟩
  all_goals rw [h, Token.openAfter]
  · rfl
  · rfl
  · rw [if_neg hopening, if_neg hclosing, openAfter]
  · rw [if_neg hopening, if_neg hclosing, openAfter]

/-- After the symbols of tokens as many parentheses are open as after the tokens. -/
theorem foldl_open_after_of_tokens (opened : Nat) (tokens : List String) :
    (ofTokens tokens).foldl openAfter opened = tokens.foldl Token.openAfter opened := by
  induction tokens using ofTokens.induct generalizing opened with
  | case1 => rfl
  | case2 token => exact open_after_of_token opened token
  | case3 token next rest hdash ih =>
      obtain ⟨rfl, rfl⟩ := hdash
      rw [ofTokens, if_pos ⟨rfl, rfl⟩]
      exact ih (opened + 1)
  | case4 token next rest hdash ih =>
      rw [ofTokens, if_neg hdash, List.foldl_cons, List.foldl_cons, ih, open_after_of_token]

end Symbol

namespace QueryTree.Reader

/-- The parentheses that a reading has open: those of the queries around, and those passed over. -/
def opened (reader : Reader) : Nat :=
  reader.outer.length + reader.skipped

/-- Parentheses have been passed over at the depth limit only. -/
def SkipsAtLimit (reader : Reader) : Prop :=
  0 < reader.skipped → maxDepth ≤ reader.outer.length

/-- A reading that starts has passed over nothing. -/
theorem skips_at_limit_start : start.SkipsAtLimit :=
  fun h => absurd h (Nat.lt_irrefl 0)

/-- Only a closing parenthesis is ever left unread, where no parenthesis is open. -/
theorem step_eq_none_iff (reader : Reader) (symbol : Symbol) :
    reader.step symbol = none ↔ symbol = .closing ∧ reader.opened = 0 := by
  obtain ⟨outer, level, skipped⟩ := reader
  cases symbol with
  | opening negated =>
      rw [step]
      split <;> simp
  | closing =>
      cases skipped with
      | succ skipped => simp [step, opened]
      | zero => cases outer <;> simp [step, opened]
  | orWord | term => simp [step]

/-- A symbol that is read opens and closes what the count says. -/
theorem opened_step {reader next : Reader} {symbol : Symbol} (h : reader.SkipsAtLimit)
    (hstep : reader.step symbol = some next) :
    next.SkipsAtLimit ∧ next.opened = symbol.openAfter reader.opened := by
  obtain ⟨outer, level, skipped⟩ := reader
  cases symbol with
  | opening negated =>
      rw [step] at hstep
      by_cases hlimit : outer.length < maxDepth
      · -- Nothing has been passed over yet, so the new level is the only change.
        have hskipped : skipped = 0 := Nat.eq_zero_of_not_pos fun hpos => by
          have := h hpos
          simp only at this
          omega
        simp only [hlimit, if_true, Option.some.injEq] at hstep
        subst hstep
        exact ⟨fun hpos => absurd hpos (Nat.lt_irrefl 0), by simp [opened, Symbol.openAfter, hskipped]⟩
      · simp only [hlimit, if_false, Option.some.injEq] at hstep
        subst hstep
        exact ⟨fun _ => Nat.le_of_not_lt hlimit, by simp [opened, Symbol.openAfter, Nat.add_assoc]⟩
  | closing =>
      cases skipped with
      | succ skipped =>
          obtain rfl := Option.some.inj hstep
          exact ⟨fun _ => h (Nat.succ_pos skipped), by simp [opened, Symbol.openAfter]⟩
      | zero =>
          cases outer with
          | nil => exact absurd hstep (by simp [step])
          | cons enclosing outer =>
              obtain rfl := Option.some.inj hstep
              exact ⟨fun hpos => absurd hpos (Nat.lt_irrefl 0), by simp [opened, Symbol.openAfter]⟩
  | orWord | term text =>
      obtain rfl := Option.some.inj hstep
      exact ⟨h, rfl⟩

end QueryTree.Reader

end CardCatalog
