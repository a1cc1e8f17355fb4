import CardCatalog.Proofs.Query.Cursor
import CardCatalog.Proofs.Query.DepthLimit
import CardCatalog.Proofs.Query.Sequence

/-!
# Superfluous `or`s

An `or` keeps the open group open if an item has just ended. Where nothing has ended, at a start, after an
opening parenthesis or after another `or`, a reading does not notice it (`Reader.ended_after`), and where a
level ends or an `or` follows, it makes no difference to what is read (`Reader.parts_joined`). Within the
depth limit such `or`s can therefore be put in anywhere without a change in what the tokens mean
(`compile_tokens_of_ors_added`). Past it a closing parenthesis that is passed over ends no level, and an
`or` before it may join what stands on both sides.
-/

namespace CardCatalog

/-! ## Adding `or`s to tokens -/

/-- No more parentheses than the limit are ever open. Some may stay open, and closing ones that close
nothing do not count. -/
def ParensNestWithin (limit : Nat) (tokens : List String) : Prop :=
  ∀ first, first <+: tokens → first.foldl Token.openAfter 0 ≤ limit

instance (limit : Nat) (tokens : List String) : Decidable (ParensNestWithin limit tokens) :=
  decidable_of_iff (∀ first ∈ tokens.inits, first.foldl Token.openAfter 0 ≤ limit)
    ⟨fun h first hfirst => h first ((List.mem_inits _ _).2 hfirst),
      fun h first hfirst => h first ((List.mem_inits _ _).1 hfirst)⟩

/-- An `or` between these tokens stands at the very start or directly after an opening parenthesis or an
`or`, or at the very end or directly before a closing parenthesis or an `or`. -/
def IsSuperfluous (before after : List String) : Prop :=
  (∀ token ∈ before.getLast?, token = "(" ∨ Symbol.isOr token = true) ∨
    ∀ token ∈ after.head?, token = ")" ∨ Symbol.isOr token = true

instance (before after : List String) : Decidable (IsSuperfluous before after) :=
  inferInstanceAs (Decidable (_ ∨ _))

/-- The second list is the first with any number of `or`s put in, in any case, each where it is
superfluous. -/
inductive OrsAdded (tokens : List String) : List String → Prop where
  | none : OrsAdded tokens tokens
  | insert {before after : List String} {word : String} (hrest : OrsAdded tokens (before ++ after))
      (hword : Symbol.isOr word = true) (hplace : IsSuperfluous before after) :
      OrsAdded tokens (before ++ word :: after)

variable {before after : List String} {word : String}

/-- An `or` is no parenthesis. -/
theorem Symbol.ne_paren_of_is_or (h : isOr word = true) : word ≠ "(" ∧ word ≠ ")" := by
  constructor
  all_goals
    rintro rfl
    exact absurd h (by decide)

/-- A further `or` leaves the parentheses nested as they are. -/
theorem ParensNestWithin.insert {limit : Nat} (h : ParensNestWithin limit (before ++ after))
    (hword : Symbol.isOr word = true) : ParensNestWithin limit (before ++ word :: after) := by
  obtain ⟨hopening, hclosing⟩ := Symbol.ne_paren_of_is_or hword
  intro first hfirst
  rcases List.prefix_or_prefix_of_prefix hfirst (List.prefix_append before _) with hbefore | hbefore
  · exact h first (hbefore.trans (List.prefix_append before after))
  · obtain ⟨middle, rfl⟩ := hbefore
    have hmiddle := (List.prefix_append_right_inj before).1 hfirst
    cases middle with
    | nil => exact h _ (by simp)
    | cons token middle =>
        obtain ⟨htoken, hmiddle⟩ := List.cons_prefix_cons.1 hmiddle
        have hwithout := h _ ((List.prefix_append_right_inj before).2 hmiddle)
        rw [List.foldl_append] at hwithout ⊢
        rwa [List.foldl_cons, htoken, Token.openAfter, if_neg hopening, if_neg hclosing]

namespace Symbol

/-- The symbol of an `or`. -/
theorem of_token_of_is_or (h : isOr word = true) : ofToken word = .orWord := by
  obtain ⟨hopening, hclosing⟩ := ne_paren_of_is_or h
  rw [ofToken, if_neg hopening, if_neg hclosing, if_pos h]

/-- Tokens that end with an opening parenthesis or an `or` have such a symbol at their end. -/
theorem last_of_tokens {tokens : List String}
    (h : ∀ token ∈ tokens.getLast?, token = "(" ∨ isOr token = true) :
    ∀ symbol ∈ (ofTokens tokens).getLast?, symbol = .orWord ∨ ∃ negated, symbol = .opening negated := by
  have hsingle {token : String} (htoken : token = "(" ∨ isOr token = true) :
      ofToken token = .orWord ∨ ∃ negated, ofToken token = .opening negated := by
    rcases htoken with rfl | hor
    · exact .inr ⟨false, rfl⟩
    · exact .inl (of_token_of_is_or hor)
  induction tokens using ofTokens.induct with
  | case1 => simp [ofTokens]
  | case2 token =>
      intro symbol hsymbol
      obtain rfl := Option.some.inj hsymbol
      exact hsingle (h token rfl)
  | case3 token next rest hdash ih =>
      rw [ofTokens, if_pos hdash]
      cases rest with
      | nil => simp [ofTokens]
      | cons third rest =>
          rw [List.getLast?_cons_of_ne_nil (of_tokens_cons_ne_nil third rest)]
          exact ih h
  | case4 token next rest hdash ih =>
      rw [ofTokens, if_neg hdash, List.getLast?_cons_of_ne_nil (of_tokens_cons_ne_nil next rest)]
      exact ih h

/-- Tokens that start with a closing parenthesis or an `or` have such a symbol at their start. -/
theorem head_of_tokens {tokens : List String}
    (h : ∀ token ∈ tokens.head?, token = ")" ∨ isOr token = true) :
    ∀ symbol ∈ (ofTokens tokens).head?, symbol = .orWord ∨ symbol = .closing := by
  cases tokens with
  | nil => simp [ofTokens]
  | cons token rest =>
      have htoken := h token rfl
      have hdash : ¬(token = "-" ∧ rest.head? = some "(") := by
        rintro ⟨rfl, _⟩
        exact absurd htoken (by decide)
      rw [of_tokens_cons hdash]
      intro symbol hsymbol
      obtain rfl := Option.some.inj hsymbol
      rcases htoken with rfl | hor
      · exact .inr rfl
      · exact .inl (of_token_of_is_or hor)

/-- A superfluous `or` does not stand between a lone dash and its opening parenthesis. -/
theorem not_negated_of_is_superfluous (h : IsSuperfluous before after) :
    ¬(before.getLast? = some "-" ∧ after.head? = some "(") := by
  rintro ⟨hlast, hfirst⟩
  rcases h with h | h
  · exact absurd (h "-" hlast) (by decide)
  · exact absurd (h "(" hfirst) (by decide)

end Symbol

/-! ## Reading a superfluous `or` -/

namespace QueryTree.Reader

/-- The reading after an `or`. -/
def joined (reader : Reader) : Reader :=
  { reader with level := reader.level.join }

/-- After a start, an opening parenthesis or an `or` no item has just ended. -/
theorem ended_after {symbols : List Symbol}
    (h : ∀ symbol ∈ symbols.getLast?, symbol = .orWord ∨ ∃ negated, symbol = .opening negated) :
    (start.after symbols).level.ended = false := by
  rcases List.eq_nil_or_concat' symbols with rfl | ⟨first, last, rfl⟩
  · rfl
  · obtain ⟨_, hafter⟩ := ended_append_and_after_append start first [last]
    rw [hafter, after]
    rcases h last (by simp) with rfl | ⟨negated, rfl⟩
    · rfl
    · rw [step]
      split
      · rename_i next hopening
        split_ifs at hopening
        · obtain rfl := Option.some.inj hopening
          rfl
        · obtain rfl := Option.some.inj hopening
          exact Level.ended_settle _
      · rfl

/-- Where no item has just ended, an `or` changes nothing. -/
theorem joined_eq_self {reader : Reader} (h : reader.level.ended = false) : reader.joined = reader := by
  rw [joined, Level.join, ← h]

/-- An `or` does not change what the query is if it ends here. -/
theorem finish_joined (reader : Reader) : reader.joined.finish = reader.finish := by
  obtain ⟨outer, level, skipped⟩ := reader
  cases outer with
  | nil => rfl
  | cons enclosing outer => rfl

/-- At the end, before another `or`, or before a closing parenthesis that is not passed over, an `or` does
not change what is read. -/
theorem parts_joined {reader : Reader} {symbols : List Symbol} (hskipped : reader.skipped = 0)
    (h : ∀ symbol ∈ symbols.head?, symbol = .orWord ∨ symbol = .closing) :
    reader.joined.parts symbols = reader.parts symbols := by
  cases symbols with
  | nil => exact congrArg (· :: []) (finish_joined reader)
  | cons symbol rest =>
      rcases h symbol rfl with rfl | rfl
      · rfl
      · obtain ⟨outer, level, skipped⟩ := reader
        obtain rfl : skipped = 0 := hskipped
        cases outer with
        | nil => rfl
        | cons enclosing outer => rfl

/-- Where no more parentheses are open than the depth limit, none are passed over. -/
theorem skipped_eq_zero {reader : Reader} (h : reader.SkipsAtLimit) (hopened : reader.opened ≤ maxDepth) :
    reader.skipped = 0 := by
  refine Nat.eq_zero_of_not_pos fun hpos => ?_
  have hlimit := h hpos
  rw [opened] at hopened
  omega

end QueryTree.Reader

/-- Tokens that nest within the depth limit are read with a superfluous `or` as they are without it. -/
theorem QueryTree.read_all_insert (hnests : ParensNestWithin maxDepth (before ++ after))
    (hword : Symbol.isOr word = true) (hplace : IsSuperfluous before after) :
    readAll (Symbol.ofTokens (before ++ word :: after)) =
      readAll (Symbol.ofTokens (before ++ after)) := by
  obtain ⟨hopening, _⟩ := Symbol.ne_paren_of_is_or hword
  have hdash : word ≠ "-" := by
    rintro rfl
    exact absurd hword (by decide)
  have hwith : Symbol.ofTokens (before ++ word :: after) =
      Symbol.ofTokens before ++ .orWord :: Symbol.ofTokens after := by
    rw [Symbol.of_tokens_append (by simp [hopening]), Symbol.of_tokens_cons (by simp [hdash]),
      Symbol.of_token_of_is_or hword]
  have hwithout : Symbol.ofTokens (before ++ after) =
      Symbol.ofTokens before ++ Symbol.ofTokens after :=
    Symbol.of_tokens_append (Symbol.not_negated_of_is_superfluous hplace)
  have hparts : (Reader.start.after (Symbol.ofTokens before)).joined.parts (Symbol.ofTokens after) =
      (Reader.start.after (Symbol.ofTokens before)).parts (Symbol.ofTokens after) := by
    rcases hplace with hbefore | hafter
    · rw [Reader.joined_eq_self (Reader.ended_after (Symbol.last_of_tokens hbefore))]
    · obtain ⟨hlimit, hopened⟩ :=
        Reader.opened_after Reader.skips_at_limit_start (Symbol.ofTokens before)
      have hwithin := hnests before (List.prefix_append before after)
      rw [Symbol.foldl_open_after_of_tokens] at hopened
      exact Reader.parts_joined (Reader.skipped_eq_zero hlimit (hopened ▸ hwithin))
        (Symbol.head_of_tokens hafter)
  rw [hwith, hwithout, read_all_eq_parts, read_all_eq_parts, Reader.parts_append, Reader.parts_append,
    ← hparts]
  rfl

/-! ## What the tokens mean -/

/-- The predicate of tokens that are read in rounds, one expression each. -/
def compileTokens (tokens : List String) : Predicate :=
  .allOf ((rounds tokens 0).filterMap fun round => (parseExpression tokens round.start).1)

/-- The rounds of tokens mean what the parts of their query mean. -/
theorem compile_tokens_eq (tokens : List String) :
    compileTokens tokens =
      .allOf ((QueryTree.readAll (Symbol.ofTokens tokens)).filterMap QueryTree.meaning?) := by
  rw [compileTokens, ← read_all_eq_rounds, List.drop_zero]

variable {tokens more : List String}

/-- With superfluous `or`s, tokens that nest within the depth limit still do. -/
theorem OrsAdded.parens_nest_within {limit : Nat} (h : OrsAdded tokens more)
    (hnests : ParensNestWithin limit tokens) : ParensNestWithin limit more := by
  induction h with
  | none => exact hnests
  | insert _ hword _ ih => exact ih.insert hword

/-- Superfluous `or`s are harmless: tokens whose parentheses nest within the depth limit mean the same
with any number of them, and so do two queries that have these tokens. -/
theorem compile_tokens_of_ors_added (hnests : ParensNestWithin QueryTree.maxDepth tokens)
    (h : OrsAdded tokens more) :
    compileTokens more = compileTokens tokens ∧
      ∀ query other, tokenize query = tokens → tokenize other = more → compile other = compile query := by
  have hread : QueryTree.readAll (Symbol.ofTokens more) = QueryTree.readAll (Symbol.ofTokens tokens) := by
    induction h with
    | none => rfl
    | insert hrest hword hplace ih =>
        exact (QueryTree.read_all_insert (hrest.parens_nest_within hnests) hword hplace).trans ih
  refine ⟨by rw [compile_tokens_eq, compile_tokens_eq, hread], ?_⟩
  rintro query other rfl rfl
  rw [compile, compile, hread]

/-- Further `or`s after an `or`, before a closing parenthesis, after an opening one and at the end, where one
parenthesis closes nothing and another one is never closed. -/
theorem compile_tokens_of_ors_added_elves :
    ParensNestWithin QueryTree.maxDepth ["(", "t:elf", "or", "t:goblin", ")", ")", "-", "(", "c:g"] ∧
      OrsAdded ["(", "t:elf", "or", "t:goblin", ")", ")", "-", "(", "c:g"]
        ["(", "t:elf", "or", "OR", "t:goblin", "or", ")", ")", "-", "(", "Or", "c:g", "or"] ∧
      compileTokens
          ["(", "t:elf", "or", "OR", "t:goblin", "or", ")", ")", "-", "(", "Or", "c:g", "or"] =
        .all [.any [.test (.matchesPattern .typeLine "elf"), .test (.matchesPattern .typeLine "goblin")],
          .not (.test (.colorsInclude .colors [.green]))] := by
  have hnests : ParensNestWithin QueryTree.maxDepth
      ["(", "t:elf", "or", "t:goblin", ")", ")", "-", "(", "c:g"] := by decide
  have hjoined : OrsAdded ["(", "t:elf", "or", "t:goblin", ")", ")", "-", "(", "c:g"]
      (["(", "t:elf", "or"] ++ "OR" :: ["t:goblin", ")", ")", "-", "(", "c:g"]) :=
    .insert .none (by decide) (by decide)
  have hclosed : OrsAdded ["(", "t:elf", "or", "t:goblin", ")", ")", "-", "(", "c:g"]
      (["(", "t:elf", "or", "OR", "t:goblin"] ++ "or" :: [")", ")", "-", "(", "c:g"]) :=
    .insert hjoined (by decide) (by decide)
  have hopened : OrsAdded ["(", "t:elf", "or", "t:goblin", ")", ")", "-", "(", "c:g"]
      (["(", "t:elf", "or", "OR", "t:goblin", "or", ")", ")", "-", "("] ++ "Or" :: ["c:g"]) :=
    .insert hclosed (by decide) (by decide)
  have hended : OrsAdded ["(", "t:elf", "or", "t:goblin", ")", ")", "-", "(", "c:g"]
      (["(", "t:elf", "or", "OR", "t:goblin", "or", ")", ")", "-", "(", "Or", "c:g"] ++ "or" :: []) :=
    .insert hopened (by decide) (by decide)
  refine ⟨hnests, hended, (compile_tokens_of_ors_added hnests hended).1.trans ?_⟩
  rw [compile_tokens_eq, QueryTree.read_all_eq_parts]
  rfl

end CardCatalog
