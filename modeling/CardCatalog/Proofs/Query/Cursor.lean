import CardCatalog.Proofs.Query.Balance
import CardCatalog.Proofs.Query.OpenParens
import CardCatalog.Proofs.Query.Token
import CardCatalog.Query.Compile
import Mathlib.Data.List.Chain
import Mathlib.Order.Bounds.Defs

/-!
# Where a reading stops

A reading stops at the closing parenthesis that a count of the tokens finds unmatched
(`unread_of_tokens`). The position where an expression ends is therefore that of the first unmatched
closing parenthesis, and a query is read in rounds that together take each of its tokens once. Read
`parse_expression_stops` first.
-/

namespace CardCatalog

/-! ## Counting the tokens -/

namespace Token

/-- The number of tokens before the first closing parenthesis that closes nothing; without one, the
number of all tokens. -/
def stop : Nat → List String → Nat
  | _, [] => 0
  | opened, token :: rest =>
      if token = ")" ∧ opened = 0 then 0 else stop (openAfter opened token) rest + 1

/-- The token at an index is a closing parenthesis, and up to it more parentheses close than open,
those counted that are open before. -/
def IsUnmatched (opened : Nat) (tokens : List String) (index : Nat) : Prop :=
  tokens[index]? = some ")" ∧
    opened + (tokens.take (index + 1)).count "(" < (tokens.take (index + 1)).count ")"

variable {opened : Nat} {token : String} {rest : List String}

/-- The first token is unmatched if it is a closing parenthesis with nothing to close. -/
theorem is_unmatched_zero_iff :
    IsUnmatched opened (token :: rest) 0 ↔ token = ")" ∧ opened = 0 := by
  constructor
  · rintro ⟨htoken, hcount⟩
    obtain rfl : token = ")" := by simpa using htoken
    simp at hcount
    exact ⟨rfl, hcount⟩
  · rintro ⟨rfl, rfl⟩
    exact ⟨rfl, by simp⟩

/-- A later token is unmatched if it is so after the first token. -/
theorem is_unmatched_succ_iff (h : ¬(token = ")" ∧ opened = 0)) (index : Nat) :
    IsUnmatched opened (token :: rest) (index + 1) ↔
      IsUnmatched (openAfter opened token) rest index := by
  rw [IsUnmatched, IsUnmatched, List.getElem?_cons_succ, List.take_succ_cons, openAfter]
  refine and_congr_right fun _ => ?_
  by_cases hopening : token = "("
  · subst hopening
    simp
    omega
  by_cases hclosing : token = ")"
  · subst hclosing
    have hopened : opened ≠ 0 := fun hzero => h ⟨rfl, hzero⟩
    simp
    omega
  · simp [hopening, hclosing]

/-- The count stops at the first unmatched closing parenthesis, or at the end if there is none. -/
theorem stop_cases (opened : Nat) (tokens : List String) :
    IsLeast {index | IsUnmatched opened tokens index} (stop opened tokens) ∨
      (stop opened tokens = tokens.length ∧ ∀ index, ¬ IsUnmatched opened tokens index) := by
  induction tokens generalizing opened with
  | nil => exact .inr ⟨rfl, fun index h => absurd h.1 (by simp)⟩
  | cons token rest ih =>
      rw [stop]
      by_cases hstop : token = ")" ∧ opened = 0
      · rw [if_pos hstop]
        exact .inl ⟨is_unmatched_zero_iff.2 hstop, fun index _ => Nat.zero_le index⟩
      · rw [if_neg hstop]
        have hzero : ¬ IsUnmatched opened (token :: rest) 0 :=
          fun h => hstop (is_unmatched_zero_iff.1 h)
        rcases ih (openAfter opened token) with ⟨hmem, hleast⟩ | ⟨hlength, hnone⟩
        · refine .inl ⟨(is_unmatched_succ_iff hstop _).2 hmem, fun index h => ?_⟩
          cases index with
          | zero => exact absurd h hzero
          | succ index => exact Nat.succ_le_succ (hleast ((is_unmatched_succ_iff hstop index).1 h))
        · refine .inr ⟨by rw [hlength, List.length_cons], fun index h => ?_⟩
          cases index with
          | zero => exact hzero h
          | succ index => exact hnone index ((is_unmatched_succ_iff hstop index).1 h)

/-- The count stops at the end of the tokens at the latest. -/
theorem stop_le_length (opened : Nat) (tokens : List String) :
    stop opened tokens ≤ tokens.length := by
  rcases stop_cases opened tokens with ⟨hmem, _⟩ | ⟨hlength, _⟩
  · obtain ⟨hindex, _⟩ := List.getElem?_eq_some_iff.1 hmem.1
    exact Nat.le_of_lt hindex
  · exact Nat.le_of_eq hlength

end Token

namespace Symbol

/-- Symbols after each other are as wide as both together. -/
theorem total_width_append (xs ys : List Symbol) :
    totalWidth (xs ++ ys) = totalWidth xs + totalWidth ys := by
  induction xs with
  | nil => simp [totalWidth]
  | cons x xs ih => rw [List.cons_append, totalWidth, totalWidth, ih, Nat.add_assoc]

/-- The symbol of a token on its own stands for one token. -/
theorem width_of_token (token : String) : (ofToken token).width = 1 := by
  rcases of_token_cases token with ⟨_, h⟩ | ⟨_, h⟩ | ⟨_, ⟨_, h⟩ | h⟩
  all_goals simp [h, width]

/-- The symbols of tokens stand for all of them. -/
theorem total_width_of_tokens (tokens : List String) :
    totalWidth (ofTokens tokens) = tokens.length := by
  induction tokens using ofTokens.induct with
  | case1 => rfl
  | case2 token => rw [ofTokens, totalWidth, width_of_token, totalWidth, List.length_singleton]
  | case3 token next rest hdash ih =>
      rw [ofTokens, if_pos hdash, totalWidth, ih, width, List.length_cons, List.length_cons]
      omega
  | case4 token next rest hdash ih =>
      rw [ofTokens, if_neg hdash, totalWidth, width_of_token, ih, Nat.add_comm, ← List.length_cons]

end Symbol

/-! ## What a reading leaves unread -/

namespace QueryTree.Reader

/-- What is left unread stands at the end of the symbols. -/
theorem unread_suffix (reader : Reader) (symbols : List Symbol) :
    (reader.run symbols).2 <:+ symbols := by
  induction symbols generalizing reader with
  | nil => exact List.suffix_rfl
  | cons symbol rest ih =>
      rw [run]
      split
      · exact (ih _).trans (List.suffix_cons symbol rest)
      · exact List.suffix_rfl

/-- A token in front of others is read exactly if the count goes on after it. -/
theorem unread_cons {reader : Reader} (h : reader.SkipsAtLimit) {token : String}
    {rest : List String} (hdash : ¬(token = "-" ∧ rest.head? = some "("))
    (hrest : ∀ next : Reader, next.SkipsAtLimit → (next.run (Symbol.ofTokens rest)).2 =
      Symbol.ofTokens (rest.drop (Token.stop next.opened rest))) :
    (reader.run (Symbol.ofTokens (token :: rest))).2 =
      Symbol.ofTokens ((token :: rest).drop (Token.stop reader.opened (token :: rest))) := by
  have hsymbols := Symbol.of_tokens_cons hdash
  rw [Token.stop]
  cases hstep : reader.step (Symbol.ofToken token) with
  | none =>
      obtain ⟨hclosing, hopened⟩ := (step_eq_none_iff reader _).1 hstep
      rw [if_pos ⟨Symbol.of_token_eq_closing_iff.1 hclosing, hopened⟩, hsymbols, run, hstep,
        List.drop_zero, hsymbols]
  | some next =>
      have hgoes : ¬(token = ")" ∧ reader.opened = 0) := by
        rintro ⟨htoken, hopened⟩
        rw [(step_eq_none_iff reader _).2
          ⟨Symbol.of_token_eq_closing_iff.2 htoken, hopened⟩] at hstep
        exact absurd hstep (by simp)
      obtain ⟨hnext, hopened⟩ := opened_step h hstep
      rw [Symbol.open_after_of_token] at hopened
      rw [if_neg hgoes, hsymbols, run, hstep, List.drop_succ_cons, ← hopened]
      exact hrest next hnext

/-- A reading leaves the tokens unread at which the count stops. -/
theorem unread_of_tokens {reader : Reader} (h : reader.SkipsAtLimit) (tokens : List String) :
    (reader.run (Symbol.ofTokens tokens)).2 =
      Symbol.ofTokens (tokens.drop (Token.stop reader.opened tokens)) := by
  induction tokens using Symbol.ofTokens.induct generalizing reader with
  | case1 => rfl
  | case2 token => exact unread_cons h (by simp) fun _ _ => rfl
  | case3 token next rest hdash ih =>
      obtain ⟨rfl, rfl⟩ := hdash
      -- The dash and its parenthesis are one symbol, and the count opens one parenthesis at them.
      have hstop : Token.stop reader.opened ("-" :: "(" :: rest) =
          Token.stop (reader.opened + 1) rest + 1 + 1 := by
        rw [Token.stop, if_neg (by simp), Token.stop, if_neg (by simp)]
        rfl
      rw [Symbol.ofTokens, if_pos ⟨rfl, rfl⟩, run, hstop]
      cases hstep : reader.step (.opening true) with
      | none => exact absurd ((step_eq_none_iff reader _).1 hstep).1 (by simp)
      | some opening =>
          obtain ⟨hnext, hopened⟩ := opened_step h hstep
          have hrest := ih hnext
          rw [hopened] at hrest
          exact hrest
  | case4 token next rest hdash ih => exact unread_cons h (by simpa using hdash) fun _ hnext => ih hnext

end QueryTree.Reader

/-! ## The end of an expression -/

/-- The token at a position is a closing parenthesis, and from the start up to it more parentheses close
than open. -/
structure IsUnmatched (tokens : List String) (start position : Nat) : Prop where
  start_le : start ≤ position
  closes : tokens[position]? = some ")"
  exceeds : (tokens.extract start (position + 1)).count "(" <
    (tokens.extract start (position + 1)).count ")"

/-- The position is that of the first unmatched closing parenthesis from the start on, or the end of the
tokens if there is none. -/
def StopsAt (tokens : List String) (start position : Nat) : Prop :=
  IsLeast {position | IsUnmatched tokens start position} position ∨
    (position = tokens.length ∧ ∀ position, ¬ IsUnmatched tokens start position)

/-- An unmatched closing parenthesis is one among the tokens from the start on. -/
theorem is_unmatched_iff {tokens : List String} {start position : Nat} :
    IsUnmatched tokens start position ↔
      ∃ index, position = start + index ∧ Token.IsUnmatched 0 (tokens.drop start) index := by
  have hextract (index : Nat) :
      tokens.extract start (start + index + 1) = (tokens.drop start).take (index + 1) := by
    rw [List.extract_eq_take_drop, Nat.add_assoc, Nat.add_sub_cancel_left]
  constructor
  · rintro ⟨hstart, hcloses, hexceeds⟩
    obtain ⟨index, rfl⟩ := Nat.exists_eq_add_of_le hstart
    rw [hextract] at hexceeds
    exact ⟨index, rfl, by rwa [List.getElem?_drop], by rwa [Nat.zero_add]⟩
  · rintro ⟨index, rfl, hcloses, hexceeds⟩
    rw [Nat.zero_add] at hexceeds
    exact ⟨Nat.le_add_right start index, by rwa [List.getElem?_drop] at hcloses,
      by rwa [hextract]⟩

/-- An expression ends where the count of its tokens stops. -/
theorem parse_expression_snd (tokens : List String) (start : Nat) :
    (parseExpression tokens start).2 = start + Token.stop 0 (tokens.drop start) := by
  have hsnd : (parseExpression tokens start).2 = start + Symbol.totalWidth
      ((Symbol.ofTokens (tokens.drop start)).take ((Symbol.ofTokens (tokens.drop start)).length -
        (QueryTree.readPart (Symbol.ofTokens (tokens.drop start))).2.length)) := rfl
  have hunread : (QueryTree.readPart (Symbol.ofTokens (tokens.drop start))).2 =
      Symbol.ofTokens ((tokens.drop start).drop (Token.stop 0 (tokens.drop start))) :=
    QueryTree.Reader.unread_of_tokens QueryTree.Reader.skips_at_limit_start _
  -- The symbols that are read and those left unread stand for all of the tokens.
  have hsymbols := List.suffix_iff_eq_append.1
    (QueryTree.Reader.unread_suffix .start (Symbol.ofTokens (tokens.drop start)))
  have hwidth := congrArg Symbol.totalWidth hsymbols
  rw [Symbol.total_width_append, ← QueryTree.readPart, hunread, Symbol.total_width_of_tokens,
    Symbol.total_width_of_tokens, List.length_drop] at hwidth
  have hle := Token.stop_le_length 0 (tokens.drop start)
  rw [hsnd, hunread]
  omega

/-- An expression ends at the first unmatched closing parenthesis, or at the end of the tokens. -/
theorem stops_at_parse_expression {tokens : List String} {start : Nat}
    (h : start ≤ tokens.length) : StopsAt tokens start (parseExpression tokens start).2 := by
  rw [parse_expression_snd]
  rcases Token.stop_cases 0 (tokens.drop start) with ⟨hmem, hleast⟩ | ⟨hlength, hnone⟩
  · refine .inl ⟨is_unmatched_iff.2 ⟨_, rfl, hmem⟩, fun position hposition => ?_⟩
    obtain ⟨index, rfl, hindex⟩ := is_unmatched_iff.1 hposition
    exact Nat.add_le_add_left (hleast hindex) start
  · refine .inr ⟨?_, fun position hposition => ?_⟩
    · rw [hlength, List.length_drop]
      omega
    · obtain ⟨index, _, hindex⟩ := is_unmatched_iff.1 hposition
      exact hnone index hindex

/-! ## The rounds of a query -/

/-- Tokens that are read as one expression, from its start to the position where it ends. -/
structure Round where
  start : Nat
  stop : Nat

/-- The rounds in which tokens are read from a position on. Each starts after the token at which the one
before it has stopped, as long as there are tokens. -/
def rounds (tokens : List String) (start : Nat) : List Round :=
  if start < tokens.length then
    ⟨start, (parseExpression tokens start).2⟩ :: rounds tokens ((parseExpression tokens start).2 + 1)
  else []
termination_by tokens.length - start
decreasing_by
  rw [parse_expression_snd]
  omega

/-- Rounds that go forward through the tokens from a position on, stop early at an unmatched closing
parenthesis only, and together take each of the tokens once. -/
structure TakesFrom (tokens : List String) (start : Nat) (rounds : List Round) : Prop where
  forward : ∀ round ∈ rounds, round.start ≤ round.stop
  stops : ∀ round ∈ rounds, round.stop < tokens.length →
    IsUnmatched tokens round.start round.stop
  next : rounds.IsChain fun round next => next.start = round.stop + 1
  takes : rounds.flatMap (fun round => tokens.extract round.start (round.stop + 1)) =
    tokens.drop start

/-- The first round starts where the rounds do. -/
theorem start_of_head_rounds {tokens : List String} {start : Nat} {round : Round}
    (h : round ∈ (rounds tokens start).head?) : round.start = start := by
  rw [rounds] at h
  split at h
  · obtain rfl := Option.some.inj h
    rfl
  · exact absurd h (by simp)

/-- The rounds from a position on take the tokens from there on. -/
theorem takes_from_rounds (tokens : List String) (start : Nat) :
    TakesFrom tokens start (rounds tokens start) := by
  induction start using rounds.induct tokens with
  | case1 start hstart ih =>
      have hstops := stops_at_parse_expression (Nat.le_of_lt hstart)
      have hle : start ≤ (parseExpression tokens start).2 := by
        rw [parse_expression_snd]
        omega
      rw [rounds, if_pos hstart]
      refine ⟨?_, ?_, ?_, ?_⟩
      · rw [List.forall_mem_cons]
        exact ⟨hle, ih.forward⟩
      · rw [List.forall_mem_cons]
        refine ⟨fun hearly => ?_, ih.stops⟩
        rcases hstops with ⟨hunmatched, _⟩ | ⟨hend, _⟩
        · exact hunmatched
        · exact absurd hend (Nat.ne_of_lt hearly)
      · refine List.isChain_cons.2 ⟨fun next hnext => start_of_head_rounds hnext, ih.next⟩
      · rw [List.flatMap_cons, ih.takes, List.extract_eq_take_drop]
        have hdrop : tokens.drop ((parseExpression tokens start).2 + 1) =
            (tokens.drop start).drop ((parseExpression tokens start).2 + 1 - start) := by
          rw [List.drop_drop, Nat.add_sub_cancel' (by omega)]
        rw [hdrop, List.take_append_drop]
  | case2 start hstart =>
      rw [rounds, if_neg hstart]
      refine ⟨by simp, by simp, .nil, ?_⟩
      rw [List.drop_of_length_le (Nat.le_of_not_lt hstart), List.flatMap_nil]

/-- The parts of a query mean what the expressions of its rounds mean. -/
theorem read_all_eq_rounds (tokens : List String) (start : Nat) :
    (QueryTree.readAll (Symbol.ofTokens (tokens.drop start))).filterMap QueryTree.meaning? =
      (rounds tokens start).filterMap fun round => (parseExpression tokens round.start).1 := by
  induction start using rounds.induct tokens with
  | case1 start hstart ih =>
      have hmeaning : (parseExpression tokens start).1 =
          (QueryTree.readPart (Symbol.ofTokens (tokens.drop start))).1.meaning? := rfl
      have hunread : (QueryTree.readPart (Symbol.ofTokens (tokens.drop start))).2 =
          Symbol.ofTokens (tokens.drop (parseExpression tokens start).2) := by
        rw [parse_expression_snd, ← List.drop_drop]
        exact QueryTree.Reader.unread_of_tokens QueryTree.Reader.skips_at_limit_start _
      rw [rounds, if_pos hstart]
      rcases stops_at_parse_expression (Nat.le_of_lt hstart) with ⟨hunmatched, _⟩ | ⟨hend, _⟩
      · -- The unmatched parenthesis is all that stands between this part and the next.
        obtain ⟨hlt, htoken⟩ := List.getElem?_eq_some_iff.1 hunmatched.closes
        rw [List.drop_eq_getElem_cons hlt, htoken, Symbol.of_tokens_cons (by simp)] at hunread
        rw [QueryTree.read_all_of_unread hunread, List.filterMap_cons, List.filterMap_cons, ih,
          hmeaning]
      · rw [hend, List.drop_length] at hunread
        have hnext : rounds tokens ((parseExpression tokens start).2 + 1) = [] := by
          rw [rounds, if_neg (by omega)]
        rw [QueryTree.read_all_of_read_part (Prod.ext rfl hunread), hnext, List.filterMap_cons,
          List.filterMap_cons, hmeaning]
        rfl
  | case2 start hstart =>
      rw [rounds, if_neg hstart, List.drop_of_length_le (Nat.le_of_not_lt hstart),
        QueryTree.read_all_of_read_part rfl]
      rfl

/-- An expression ends at the first closing parenthesis that is unmatched from its start on, or at the
end of the tokens, however deep its parentheses nest. A query is therefore read in rounds, one expression
each, that go forward, stop early only at an unmatched closing parenthesis, and together take every token
once. -/
theorem parse_expression_stops :
    (∀ (tokens : List String) (start : Nat), start ≤ tokens.length →
      StopsAt tokens start (parseExpression tokens start).2) ∧
    ∀ query : String,
      compile query = .allOf ((rounds (tokenize query) 0).filterMap fun round =>
        (parseExpression (tokenize query) round.start).1) ∧
      TakesFrom (tokenize query) 0 (rounds (tokenize query) 0) := by
  refine ⟨fun tokens start h => stops_at_parse_expression h, fun query => ⟨?_, ?_⟩⟩
  · rw [← read_all_eq_rounds, List.drop_zero, compile]
  · exact takes_from_rounds _ 0

/-- Past the depth limit a negated parenthesis and those around it are closed one after the other, and the
expression ends at the parenthesis after them. -/
theorem parse_expression_stops_past_limit :
    1 ≤ (List.replicate 66 "(" ++ ["-", "(", "t:elf"] ++ List.replicate 68 ")").length ∧
      StopsAt (List.replicate 66 "(" ++ ["-", "(", "t:elf"] ++ List.replicate 68 ")") 1 135 := by
  have hstart :
      1 ≤ (List.replicate 66 "(" ++ ["-", "(", "t:elf"] ++ List.replicate 68 ")").length := by simp
  refine ⟨hstart, ?_⟩
  have hstops := parse_expression_stops.1 _ _ hstart
  have hstop : Token.stop 0
      ((List.replicate 66 "(" ++ ["-", "(", "t:elf"] ++ List.replicate 68 ")").drop 1) = 134 := by
    decide +kernel
  rwa [parse_expression_snd, hstop] at hstops

end CardCatalog
