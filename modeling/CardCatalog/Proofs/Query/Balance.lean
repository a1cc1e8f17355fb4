import CardCatalog.Query.Tree
import Mathlib.Data.List.Infix

/-!
# Balanced parentheses

A query whose parentheses are balanced is read as a whole, and read in the same way wherever it
stands, as long as the depth limit is not passed: reading it changes only the level it stands in, and
the levels around that have no part in it (`run_balanced`).
-/

namespace CardCatalog

/-- Tokens that close the parentheses open before them and each of their own, with no more than
`limit` open at any time. -/
structure ClosesParens (limit opened : Nat) (tokens : List String) : Prop where
  closes : ∀ first, first <+: tokens → first.count ")" ≤ opened + first.count "("
  closed : tokens.count ")" = opened + tokens.count "("
  nests : ∀ first, first <+: tokens → opened + first.count "(" ≤ first.count ")" + limit

/-- The parentheses among the tokens are balanced and nest no deeper than the limit. A quoted
parenthesis that makes up a token is one of them, since it is read as one. -/
def ParensBalanced (limit : Nat) (tokens : List String) : Prop :=
  ClosesParens limit 0 tokens

instance (limit opened : Nat) (tokens : List String) :
    Decidable (ClosesParens limit opened tokens) :=
  decidable_of_iff
    ((∀ first ∈ tokens.inits, first.count ")" ≤ opened + first.count "(") ∧
      tokens.count ")" = opened + tokens.count "(" ∧
      ∀ first ∈ tokens.inits, opened + first.count "(" ≤ first.count ")" + limit)
    ⟨fun ⟨hcloses, hclosed, hnests⟩ =>
        ⟨fun first h => hcloses first ((List.mem_inits _ _).2 h), hclosed,
          fun first h => hnests first ((List.mem_inits _ _).2 h)⟩,
      fun h => ⟨fun first hfirst => h.closes first ((List.mem_inits _ _).1 hfirst), h.closed,
        fun first hfirst => h.nests first ((List.mem_inits _ _).1 hfirst)⟩⟩

instance (limit : Nat) (tokens : List String) : Decidable (ParensBalanced limit tokens) :=
  inferInstanceAs (Decidable (ClosesParens limit 0 tokens))

namespace ClosesParens

variable {limit opened : Nat} {token : String} {rest : List String}

/-- What follows a token closes the parentheses that are open after it. -/
theorem tail {after : Nat} (h : ClosesParens limit opened (token :: rest))
    (hafter : after + [token].count ")" = opened + [token].count "(") :
    ClosesParens limit after rest := by
  have hcons {first : List String} (hfirst : first <+: rest) : token :: first <+: token :: rest :=
    List.cons_prefix_cons.2 ⟨rfl, hfirst⟩
  simp only [List.count_cons, List.count_nil] at hafter
  refine ⟨?_, ?_, ?_⟩
  · intro first hfirst
    have hcloses := h.closes _ (hcons hfirst)
    simp only [List.count_cons] at hcloses
    omega
  · have hclosed := h.closed
    simp only [List.count_cons] at hclosed
    omega
  · intro first hfirst
    have hnests := h.nests _ (hcons hfirst)
    simp only [List.count_cons] at hnests
    omega

/-- What follows an opening parenthesis closes it as well. -/
theorem of_opening (h : ClosesParens limit opened ("(" :: rest)) :
    opened < limit ∧ ClosesParens limit (opened + 1) rest := by
  have hnests := h.nests ["("] (List.cons_prefix_cons.2 ⟨rfl, List.nil_prefix⟩)
  simp at hnests
  exact ⟨by omega, h.tail (by simp)⟩

/-- What follows a closing parenthesis leaves to it one that is open before. -/
theorem of_closing (h : ClosesParens limit opened (")" :: rest)) :
    0 < opened ∧ ClosesParens limit (opened - 1) rest := by
  have hcloses := h.closes [")"] (List.cons_prefix_cons.2 ⟨rfl, List.nil_prefix⟩)
  simp at hcloses
  exact ⟨by omega, h.tail (by simp; omega)⟩

/-- A token that is no parenthesis does not matter. -/
theorem of_other (h : ClosesParens limit opened (token :: rest)) (hopening : token ≠ "(")
    (hclosing : token ≠ ")") : ClosesParens limit opened rest :=
  h.tail (by simp [hopening, hclosing])

end ClosesParens

namespace Symbol

/-- Symbols that close the parentheses open before them and each of their own, with no more than
`limit` open at any time. -/
def ClosesParens (limit : Nat) : Nat → List Symbol → Prop
  | opened, [] => opened = 0
  | opened, .opening _ :: rest => opened < limit ∧ ClosesParens limit (opened + 1) rest
  | opened, .closing :: rest => 0 < opened ∧ ClosesParens limit (opened - 1) rest
  | opened, .orWord :: rest => ClosesParens limit opened rest
  | opened, .term _ :: rest => ClosesParens limit opened rest

/-- A token in front of symbols that close the parentheses keeps them closed. -/
theorem closes_parens_cons {limit opened : Nat} {token : String} {tokens : List String}
    {symbols : List Symbol} (h : CardCatalog.ClosesParens limit opened (token :: tokens))
    (hrest : ∀ opened, CardCatalog.ClosesParens limit opened tokens →
      ClosesParens limit opened symbols) :
    ClosesParens limit opened (ofToken token :: symbols) := by
  rw [ofToken]
  by_cases hopening : token = "("
  · subst hopening
    obtain ⟨hlimit, htail⟩ := h.of_opening
    exact ⟨hlimit, hrest _ htail⟩
  by_cases hclosing : token = ")"
  · subst hclosing
    obtain ⟨hopened, htail⟩ := h.of_closing
    exact ⟨hopened, hrest _ htail⟩
  rw [if_neg hopening, if_neg hclosing]
  split
  all_goals exact hrest _ (h.of_other hopening hclosing)

/-- The symbols of tokens close the parentheses that the tokens close. -/
theorem closes_parens_of_tokens {limit opened : Nat} {tokens : List String}
    (h : CardCatalog.ClosesParens limit opened tokens) :
    ClosesParens limit opened (ofTokens tokens) := by
  induction tokens using ofTokens.induct generalizing opened with
  | case1 =>
      have hclosed := h.closed
      rw [ofTokens, ClosesParens]
      simp at hclosed
      omega
  | case2 token =>
      rw [ofTokens]
      refine closes_parens_cons h fun opened htail => ?_
      have hclosed := htail.closed
      rw [ClosesParens]
      simp at hclosed
      omega
  | case3 token next rest hdash ih =>
      obtain ⟨rfl, rfl⟩ := hdash
      rw [ofTokens, if_pos ⟨rfl, rfl⟩]
      obtain ⟨hlimit, htail⟩ := (h.of_other (by decide) (by decide)).of_opening
      exact ⟨hlimit, ih htail⟩
  | case4 token next rest hdash ih =>
      rw [ofTokens, if_neg hdash]
      exact closes_parens_cons h fun opened htail => ih htail

end Symbol

namespace QueryTree

open Reader

/-- Reading symbols that close every open parenthesis but those of the levels around changes the
outermost of their own levels only, in the same way whatever levels stand around. -/
theorem run_closing {limit : Nat} {symbols : List Symbol} (outer : List (Bool × Level))
    (level : Level) (h : Symbol.ClosesParens limit outer.length symbols) :
    ∃ final : Level, ∀ (around : List (Bool × Level)), around.length + limit ≤ maxDepth →
      ∀ rest, Reader.run ⟨outer ++ around, level, 0⟩ (symbols ++ rest) =
        Reader.run ⟨around, final, 0⟩ rest := by
  -- By induction on the symbols; `outer` holds the levels opened since the start, and only these are
  -- closed, so that `around` is found unchanged at the end.
  induction symbols generalizing outer level with
  | nil =>
      obtain rfl : outer = [] := List.length_eq_zero_iff.1 h
      exact ⟨level, fun around _ rest => rfl⟩
  | cons symbol symbols ih =>
      cases symbol with
      | opening negated =>
          obtain ⟨hlimit, hrest⟩ := h
          obtain ⟨final, hrun⟩ := ih ((negated, level.settle) :: outer) .start hrest
          refine ⟨final, fun around haround rest => ?_⟩
          have hopen : (outer ++ around).length < maxDepth := by
            rw [List.length_append]
            omega
          rw [List.cons_append, Reader.run, Reader.step, if_pos hopen]
          exact hrun around haround rest
      | closing =>
          obtain ⟨hopened, hrest⟩ := h
          obtain ⟨⟨negated, enclosing⟩, outer, rfl⟩ := List.exists_cons_of_length_pos hopened
          obtain ⟨final, hrun⟩ := ih outer (enclosing.push (.nested negated level.tree)) hrest
          exact ⟨final, fun around haround rest => hrun around haround rest⟩
      | orWord =>
          obtain ⟨final, hrun⟩ := ih outer level.join h
          exact ⟨final, fun around haround rest => hrun around haround rest⟩
      | term text =>
          obtain ⟨final, hrun⟩ := ih outer (level.settle.push (.term text)) h
          exact ⟨final, fun around haround rest => hrun around haround rest⟩

/-- Balanced symbols are read as one query, and the same query is read from them between parentheses
where the depth limit allows it. -/
theorem run_balanced {limit : Nat} {symbols : List Symbol} (h : Symbol.ClosesParens limit 0 symbols)
    (hlimit : limit < maxDepth) (negated : Bool) :
    ∃ tree : QueryTree, readPart symbols = (tree, []) ∧
      readPart (.opening negated :: (symbols ++ [.closing])) =
        ([[.nested negated tree]], []) := by
  obtain ⟨final, hrun⟩ := run_closing [] .start h
  refine ⟨final.tree, ?_, ?_⟩
  · have hread := hrun [] (by simp; omega) []
    rw [List.append_nil symbols] at hread
    exact hread
  · have hread := hrun [(negated, .start)] (by simp; omega) [.closing]
    exact hread

/-- Symbols that are read as one query are all of it. -/
theorem read_all_of_read_part {symbols : List Symbol} {tree : QueryTree}
    (h : readPart symbols = (tree, [])) : readAll symbols = [tree] := by
  rw [readAll]
  split
  · rw [h]
  · rename_i hunread
    rw [h] at hunread
    exact absurd hunread (by simp)

/-- After a closing parenthesis that closes nothing, the next part of the query begins. -/
theorem read_all_of_unread {symbols rest : List Symbol} {symbol : Symbol}
    (h : (readPart symbols).2 = symbol :: rest) :
    readAll symbols = (readPart symbols).1 :: readAll rest := by
  rw [readAll]
  split
  · rename_i hunread
    rw [h] at hunread
    exact absurd hunread (by simp)
  · rename_i hunread
    rw [h] at hunread
    obtain ⟨_, rfl⟩ := List.cons_eq_cons.1 hunread
    rfl

end QueryTree

end CardCatalog
