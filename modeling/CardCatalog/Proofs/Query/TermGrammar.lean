import CardCatalog.Proofs.Query.Term

/-!
# The grammar of terms

`Term.Follows` says what a token means as a term without saying how it is read: when a dash negates it,
when it has the form of a comparison, which key and which comparison that form has, and when it has the
form of a key with a colon. A token is read as a term if and only if the term follows the grammar
(`parse_eq_iff_follows`), so the grammar leaves no choice: of the symbols that stand after the letters the
longest is taken, and the parts make up the token.
-/

namespace CardCatalog

namespace Comparison

/-- The symbol of the comparison stands at the front of the text, with a value behind it. -/
def StandsBefore (comparison : Comparison) (cs : List Char) : Prop :=
  ∃ value, value ≠ [] ∧ cs = comparison.symbol.toList ++ value

/-- A comparison has no other comparison's symbol. -/
theorem symbol_injective : Function.Injective symbol := by
  intro comparison other h
  cases comparison <;> cases other <;> first | rfl | exact absurd h (by decide)

/-- Of two symbols at the front of a text that are equally long, each is the other. -/
theorem eq_of_symbols_prefix {comparison other : Comparison} {cs : List Char}
    (h : comparison.symbol.toList <+: cs) (hother : other.symbol.toList <+: cs)
    (hlength : comparison.symbol.length = other.symbol.length) : comparison = other := by
  rw [← String.length_toList, ← String.length_toList] at hlength
  have hsymbols := (List.prefix_of_prefix_length_le h hother hlength.le).eq_of_length hlength
  exact symbol_injective (String.toList_inj.1 hsymbols)

/-- Of two symbols with a value behind them that are equally long, each is the other. -/
theorem StandsBefore.unique {comparison other : Comparison} {cs : List Char}
    (h : comparison.StandsBefore cs) (hother : other.StandsBefore cs)
    (hlength : comparison.symbol.length = other.symbol.length) : comparison = other := by
  obtain ⟨value, _, hcs⟩ := h
  obtain ⟨otherValue, _, hother⟩ := hother
  exact eq_of_symbols_prefix ⟨value, hcs.symm⟩ ⟨otherValue, hother.symm⟩ hlength

/-- No symbol is tried before a longer one. -/
theorem longest_first_pairwise :
    longestFirst.Pairwise fun comparison later => later.symbol.length ≤ comparison.symbol.length := by
  decide

/-- Of the comparisons for which something can be found, one with the longest symbol is taken. -/
theorem longest_of_find_some {α : Type} {find : Comparison → Option α} {found : α}
    (h : longestFirst.findSome? find = some found) :
    ∃ comparison, find comparison = some found ∧
      ∀ other : Comparison, (find other).isSome = true →
        other.symbol.length ≤ comparison.symbol.length := by
  obtain ⟨before, comparison, after, hsplit, hfound, hbefore⟩ := List.findSome?_eq_some_iff.1 h
  refine ⟨comparison, hfound, fun other hother => ?_⟩
  have hmem := mem_longest_first other
  have hpairwise := longest_first_pairwise
  rw [hsplit] at hmem hpairwise
  rcases List.mem_append.1 hmem with hmem | hmem
  · -- Nothing was found for what was tried before.
    rw [hbefore other hmem] at hother
    exact absurd hother (by simp)
  · rcases List.mem_cons.1 hmem with rfl | hmem
    · exact Nat.le_refl _
    · exact List.rel_of_pairwise_cons (List.pairwise_append.1 hpairwise).2.1 hmem

end Comparison

namespace Term

/-- A token without the dash that negates it: one at the front, with something behind it. -/
def bodyOf (token : String) : List Char :=
  if 1 < token.length ∧ token.toList.head? = some '-' then token.toList.tail else token.toList

/-- A term is what the grammar makes of a token.

A dash negates it if it is not all of the token. The rest has the form of a comparison if it is one or
more letters, the symbol of a comparison and one or more other characters; the key is then all of the
letters, and the comparison the longest that leaves a value. Otherwise it has the form of a key with a
colon if a colon stands in it but not at its front; the key is then what stands before the first one.
Otherwise there is no key. The dash, the key, the symbol or the colon, and the value are the token. -/
structure Follows (token : String) (term : Term) : Prop where
  written : term.written = token.toList
  negated_iff : term.negated = true ↔ 1 < token.length ∧ token.toList.head? = some '-'
  compared_iff : term.comparison.isSome = true ↔ IsCompared (bodyOf token)
  key_of_letters : term.comparison.isSome = true →
    term.key = some (String.ofList ((bodyOf token).takeWhile isKeyLetter))
  stands : ∀ comparison ∈ term.comparison,
    comparison.StandsBefore ((bodyOf token).dropWhile isKeyLetter)
  longest : ∀ comparison ∈ term.comparison, ∀ other : Comparison,
    other.StandsBefore ((bodyOf token).dropWhile isKeyLetter) →
      other.symbol.length ≤ comparison.symbol.length
  keyed_iff : term.comparison = none →
    (term.key.isSome = true ↔ ':' ∈ bodyOf token ∧ (bodyOf token).head? ≠ some ':')
  key_before_colon : term.comparison = none → ∀ key ∈ term.key,
    key = String.ofList ((bodyOf token).takeWhile (· != ':'))

/-! ## One term at most -/

/-- Optional values are the same if neither or both are present, and present ones are the same. -/
theorem option_eq_of_is_some_iff {α : Type} {a b : Option α} (hsome : a.isSome = true ↔ b.isSome = true)
    (hvalue : ∀ x ∈ a, ∀ y ∈ b, x = y) : a = b := by
  cases a with
  | none =>
      cases b with
      | none => rfl
      | some y => exact absurd (hsome.2 rfl) (by simp)
  | some x =>
      obtain ⟨y, hy⟩ := Option.isSome_iff_exists.1 (hsome.1 rfl)
      rw [hvalue x rfl y hy, hy]

namespace Follows

variable {token : String} {term other : Term}

/-- The grammar determines the comparison: of two that stand at the same place, neither is longer. -/
theorem comparison_eq (h : Follows token term) (hother : Follows token other) :
    term.comparison = other.comparison := by
  refine option_eq_of_is_some_iff (h.compared_iff.trans hother.compared_iff.symm) ?_
  intro x hx y hy
  have hle := h.longest x hx y (hother.stands y hy)
  have hle' := hother.longest y hy x (h.stands x hx)
  exact (h.stands x hx).unique (hother.stands y hy) (Nat.le_antisymm hle' hle)

/-- The grammar determines the key: all of the letters, or what stands before the first colon. -/
theorem key_eq (h : Follows token term) (hother : Follows token other) : term.key = other.key := by
  have hcomparison := h.comparison_eq hother
  cases hterm : term.comparison with
  | some comparison =>
      rw [h.key_of_letters (by rw [hterm]; rfl),
        hother.key_of_letters (by rw [← hcomparison, hterm]; rfl)]
  | none =>
      have hnone : other.comparison = none := by rw [← hcomparison, hterm]
      refine option_eq_of_is_some_iff ((h.keyed_iff hterm).trans (hother.keyed_iff hnone).symm) ?_
      intro x hx y hy
      rw [h.key_before_colon hterm x hx, hother.key_before_colon hnone y hy]

/-- At most one term follows the grammar: what is left of the token is the value. -/
theorem unique (h : Follows token term) (hother : Follows token other) : term = other := by
  have hnegated : term.negated = other.negated :=
    Bool.eq_iff_iff.2 (h.negated_iff.trans hother.negated_iff.symm)
  have hcomparison := h.comparison_eq hother
  have hkey := h.key_eq hother
  have hvalue : term.value = other.value := by
    have hwritten := h.written.trans hother.written.symm
    rw [Term.written, Term.written, hnegated, hkey, hcomparison] at hwritten
    exact String.toList_inj.1 (List.append_cancel_left hwritten)
  cases term
  cases other
  simp_all

end Follows

/-! ## The term that is read -/

/-- The comparison that is read stands at the front, and no other that stands there has a longer symbol. -/
theorem read_comparison_longest {cs value : List Char} {comparison other : Comparison}
    (h : readComparison? cs = some (comparison, value)) (hother : other.StandsBefore cs) :
    other.symbol.length ≤ comparison.symbol.length := by
  obtain ⟨tried, htried, hlongest⟩ := Comparison.longest_of_find_some h
  have hcomparison : tried = comparison := by
    split at htried
    · exact (Prod.mk.inj (Option.some.inj htried)).1
    · exact absurd htried (by simp)
  obtain ⟨rest, hrest, hcs⟩ := hother
  obtain ⟨c, rest, rfl⟩ := List.exists_cons_of_ne_nil hrest
  rw [← hcomparison]
  refine hlongest other ?_
  rw [Comparison.strip_eq_some_iff.2 hcs]
  rfl

/-- A token is read as its body, negated if the body lacks the dash. -/
theorem parse_eq_of_body (token : String) :
    parse token =
      ofBody (decide (1 < token.length ∧ token.toList.head? = some '-')) (bodyOf token) := by
  rw [bodyOf, ← String.length_toList, parse]
  split
  · rename_i c rest hdash
    simp [hdash]
  · rename_i hundashed
    have hnot : ¬ (1 < token.toList.length ∧ token.toList.head? = some '-') := by
      rintro ⟨hlength, hhead⟩
      cases hchars : token.toList with
      | nil => simp [hchars] at hhead
      | cons d tail =>
          rw [hchars] at hlength hhead
          obtain rfl := Option.some.inj hhead
          cases tail with
          | nil => simp at hlength
          | cons c rest => exact hundashed c rest hchars
    rw [if_neg hnot, decide_eq_false hnot]

/-- A body has a comparison exactly if it has the form of one. -/
theorem comparison_of_body_is_some_iff (negated : Bool) (body : List Char) :
    (ofBody negated body).comparison.isSome = true ↔ IsCompared body := by
  rw [← not_iff_not, ← compared_eq_none_iff, ofBody]
  cases hcompared : compared? body with
  | some found => simp
  | none =>
      cases hkeyed : keyed? body with
      | some found => simp
      | none => simp

/-- The comparison of a body comes with all of its letters as the key, and is read behind them. -/
theorem compared_of_body {negated : Bool} {body : List Char} {comparison : Comparison}
    (h : (ofBody negated body).comparison = some comparison) :
    (ofBody negated body).key = some (String.ofList (body.takeWhile isKeyLetter)) ∧
      ∃ value, readComparison? (body.dropWhile isKeyLetter) = some (comparison, value) := by
  rw [ofBody] at h ⊢
  cases hcompared : compared? body with
  | none =>
      rw [hcompared] at h
      cases hkeyed : keyed? body <;> simp [hkeyed] at h
  | some found =>
      obtain ⟨key, found, value⟩ := found
      rw [hcompared] at h
      obtain rfl : found = comparison := Option.some.inj h
      unfold compared? at hcompared
      dsimp only at hcompared
      split at hcompared
      · exact absurd hcompared (by simp)
      · obtain ⟨⟨read, rest⟩, hread, heq⟩ := Option.map_eq_some_iff.1 hcompared
        obtain ⟨rfl, hpair⟩ := Prod.mk.inj heq
        obtain ⟨rfl, _⟩ := Prod.mk.inj hpair
        exact ⟨rfl, rest, hread⟩

/-- A body without a comparison has the key that stands before its first colon. -/
theorem key_of_body {negated : Bool} {body : List Char}
    (h : (ofBody negated body).comparison = none) :
    (ofBody negated body).key = (keyed? body).map Prod.fst := by
  rw [ofBody] at h ⊢
  cases hcompared : compared? body with
  | some found => simp [hcompared] at h
  | none => cases hkeyed : keyed? body <;> rfl

/-- The key of a body with a colon is what stands before the first one. -/
theorem keyed_key_eq {body : List Char} {key value : String} (h : keyed? body = some (key, value)) :
    key = String.ofList (body.takeWhile (· != ':')) := by
  obtain ⟨_, hcolon, rfl⟩ := keyed_eq_some_iff.1 h
  have hbefore : ∀ c ∈ key.toList, (c != ':') = true := by
    intro c hc
    simpa using fun heq : c = ':' => hcolon (heq ▸ hc)
  rw [Text.take_while_append_of_all hbefore (by simp), String.ofList_toList]

/-- The term that is read follows the grammar. -/
theorem follows_parse (token : String) : Follows token (parse token) := by
  have hbody := parse_eq_of_body token
  refine ⟨written_parse token, ?_, ?_, ?_, ?_, ?_, ?_, ?_⟩
  · rw [hbody, negated_of_body, decide_eq_true_iff]
  · rw [hbody, comparison_of_body_is_some_iff]
  · intro hsome
    obtain ⟨comparison, hcomparison⟩ := Option.isSome_iff_exists.1 hsome
    rw [hbody] at hcomparison ⊢
    exact (compared_of_body hcomparison).1
  · intro comparison hcomparison
    rw [hbody] at hcomparison
    obtain ⟨_, value, hread⟩ := compared_of_body hcomparison
    exact ⟨value, read_comparison_eq_some hread⟩
  · intro comparison hcomparison other hother
    rw [hbody] at hcomparison
    obtain ⟨_, value, hread⟩ := compared_of_body hcomparison
    exact read_comparison_longest hread hother
  · intro hnone
    rw [hbody] at hnone ⊢
    rw [key_of_body hnone, Option.isSome_map, ← not_iff_not, Bool.not_eq_true, Option.isSome_eq_false_iff,
      Option.isNone_iff_eq_none, keyed_eq_none_iff]
    tauto
  · intro hnone key hkey
    rw [hbody] at hnone hkey
    rw [key_of_body hnone] at hkey
    obtain ⟨⟨_, value⟩, hkeyed, rfl⟩ := Option.map_eq_some_iff.1 hkey
    exact keyed_key_eq hkeyed

/-- A token is read as a term if and only if the term follows the grammar. -/
theorem parse_eq_iff_follows {token : String} {term : Term} :
    parse token = term ↔ Follows token term := by
  constructor
  · rintro rfl
    exact follows_parse token
  · intro h
    exact (follows_parse token).unique h

/-- A symbol that leaves no value gives way to a shorter one, and a body without letters in front of the
symbol has the form of a key with a colon. -/
example :
    parse "-mv>=" = ⟨some "mv", "=", some .gt, true⟩ ∧
      parse "m1>=2:x" = ⟨some "m1>=2", "x", none, false⟩ := by
  decide

end Term

end CardCatalog
