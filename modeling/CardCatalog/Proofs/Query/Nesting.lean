import CardCatalog.Proofs.Query.Sequence

/-!
# What holds at each depth of a query

A property of what the items and groups of a query mean may depend on how deep they stand. If the tokens of
the query give it to its terms, and composing predicates passes it on from the items to their group and from
the groups of a nested query to the item one level higher, every step of a reading keeps it for the levels
that are open (`Holds.step`), and so the groups at the top of the query have it in the end
(`compile_query`).
-/

namespace CardCatalog

/-- What the items and the groups of a query mean has the properties, each at the depth at which they stand,
as far as the terms are tokens of the kind. -/
structure IsGraded (kind : String → Prop) (item group : Nat → Predicate → Prop) : Prop where
  term : ∀ depth ≤ QueryTree.maxDepth, ∀ token p, kind token → buildTerm token = some p → item depth p
  any_of : ∀ depth, ∀ parts ≠ [], (∀ p ∈ parts, item depth p) → group depth (.anyOf parts)
  nested : ∀ depth, ∀ parts ≠ [], (∀ p ∈ parts, group (depth + 1) p) →
    item depth (.allOf parts) ∧ item depth (Predicate.allOf parts).negate

namespace QueryTree

section

variable (item group : Nat → Predicate → Prop)

/-- What a level means so far has the properties at a depth. -/
structure Level.Holds (depth : Nat) (level : Level) : Prop where
  items : ∀ p ∈ itemMeanings level.items, item depth p
  groups : ∀ p ∈ groupMeanings level.groups, group depth p

/-- The levels around have the properties, each at the depth that those around it make up. -/
def HoldsAround : List (Bool × Level) → Prop
  | [] => True
  | (_, level) :: outer => level.Holds item group outer.length ∧ HoldsAround outer

/-- All levels of a reading have the properties, and none of them is deeper than the limit. -/
structure Reader.Holds (reader : Reader) : Prop where
  within : reader.outer.length ≤ maxDepth
  level : reader.level.Holds item group reader.outer.length
  around : HoldsAround item group reader.outer

end

variable {kind : String → Prop} {item group : Nat → Predicate → Prop}

/-- A level of which nothing has been read means nothing. -/
theorem Level.Holds.start (depth : Nat) : Level.start.Holds item group depth :=
  ⟨fun _ hp => absurd hp List.not_mem_nil, fun _ hp => absurd hp List.not_mem_nil⟩

/-- A reading that starts means nothing. -/
theorem Reader.Holds.start : Reader.start.Holds item group :=
  ⟨Nat.zero_le _, .start 0, trivial⟩

namespace Level.Holds

variable {depth : Nat} {level inner : Level} (h : IsGraded kind item group)

include h

/-- What the items of the open group mean is passed on to the group when it is complete. -/
theorem close (hlevel : level.Holds item group depth) : level.close.Holds item group depth := by
  rw [Level.close]
  split
  · exact ⟨hlevel.items, hlevel.groups⟩
  · refine ⟨fun p hp => absurd hp List.not_mem_nil, fun p hp => ?_⟩
    rw [group_meanings_append, List.mem_append] at hp
    refine hp.elim (hlevel.groups p) fun hp => ?_
    have hitems := hlevel.items
    rw [groupMeanings] at hp
    split at hp
    · exact absurd hp List.not_mem_nil
    · rename_i parts hfilled
      obtain rfl := List.mem_singleton.1 hp
      exact h.any_of depth _ hfilled hitems

/-- What a level means is kept when an item that has ended completes its group. -/
theorem settle (hlevel : level.Holds item group depth) : level.settle.Holds item group depth := by
  rw [Level.settle]
  split
  · exact hlevel.close h
  · exact hlevel

omit h in
/-- An item that means something of the kind may be added to the open group. -/
theorem push (hlevel : level.Holds item group depth) {x : QueryItem}
    (hitem : ∀ p ∈ x.meaning?, item depth p) : (level.push x).Holds item group depth := by
  refine ⟨fun p hp => ?_, hlevel.groups⟩
  rw [Level.push, item_meanings_append, List.mem_append] at hp
  refine hp.elim (hlevel.items p) fun hp => hitem p ?_
  simpa [itemMeanings] using hp

/-- A term may be added to the open group, as long as the limit allows for the level. -/
theorem push_term (hlevel : level.Holds item group depth) (hdepth : depth ≤ maxDepth) {text : String}
    (htext : kind text) : (level.push (.term text)).Holds item group depth :=
  hlevel.push fun p hp => by
    rw [term_meaning_eq] at hp
    exact h.term depth hdepth text p htext hp

/-- The level inside may be added to the open group as a nested query. -/
theorem push_nested (hlevel : level.Holds item group depth) (hinner : inner.Holds item group (depth + 1))
    (negated : Bool) : (level.push (.nested negated inner.tree)).Holds item group depth :=
  hlevel.push fun p hp => by
    have hgroups := (hinner.close h).groups
    rw [nested_meaning_eq, QueryTree.meaning?] at hp
    obtain ⟨q, hq, rfl⟩ := Option.map_eq_some_iff.1 hp
    split at hq
    · exact absurd hq (by simp)
    · rename_i hfilled
      obtain rfl := Option.some.inj hq
      have hnested := h.nested depth _ hfilled hgroups
      cases negated with
      | true => exact hnested.2
      | false => exact hnested.1

end Level.Holds

namespace Reader.Holds

variable {reader next : Reader} (h : IsGraded kind item group)

include h

/-- Every symbol that is read keeps the properties. -/
theorem step {symbol : Symbol} (hreader : reader.Holds item group)
    (hsymbol : ∀ text, symbol = .term text → kind text) (hstep : reader.step symbol = some next) :
    next.Holds item group := by
  obtain ⟨outer, level, skipped⟩ := reader
  obtain ⟨hwithin, hlevel, haround⟩ := hreader
  cases symbol with
  | term text =>
      obtain rfl := Option.some.inj hstep
      exact ⟨hwithin, (hlevel.settle h).push_term h hwithin (hsymbol text rfl), haround⟩
  | orWord =>
      obtain rfl := Option.some.inj hstep
      exact ⟨hwithin, ⟨hlevel.items, hlevel.groups⟩, haround⟩
  | opening negated =>
      rw [Reader.step] at hstep
      by_cases hlimit : outer.length < maxDepth
      · simp only [hlimit, if_true, Option.some.injEq] at hstep
        subst hstep
        exact ⟨hlimit, .start _, hlevel.settle h, haround⟩
      · simp only [hlimit, if_false, Option.some.injEq] at hstep
        subst hstep
        exact ⟨hwithin, hlevel.settle h, haround⟩
  | closing =>
      cases skipped with
      | succ skipped =>
          obtain rfl := Option.some.inj hstep
          exact ⟨hwithin, hlevel.settle h, haround⟩
      | zero =>
          cases outer with
          | nil => exact absurd hstep (by simp [Reader.step])
          | cons enclosing outer =>
              obtain rfl := Option.some.inj hstep
              obtain ⟨henclosing, haround⟩ := haround
              exact ⟨Nat.le_of_succ_le hwithin, henclosing.push_nested h hlevel _, haround⟩

/-- The groups of the query that has been read have the property of groups at the top. -/
theorem finish (hreader : reader.Holds item group) : ∀ p ∈ groupMeanings reader.finish, group 0 p := by
  obtain ⟨outer, level, skipped⟩ := reader
  obtain ⟨-, hlevel, haround⟩ := hreader
  rw [Reader.finish]
  -- From the innermost level outwards, each one is added to the one around it.
  induction outer generalizing level with
  | nil => exact (hlevel.close h).groups
  | cons enclosing outer ih =>
      obtain ⟨henclosing, haround⟩ := haround
      exact ih _ (henclosing.push_nested h hlevel _) haround

/-- The groups of all parts of a query have the property of groups at the top. -/
theorem parts {symbols : List Symbol} (hreader : reader.Holds item group)
    (hsymbols : ∀ text, .term text ∈ symbols → kind text) :
    ∀ tree ∈ reader.parts symbols, ∀ p ∈ groupMeanings tree, group 0 p := by
  induction symbols generalizing reader with
  | nil =>
      intro tree htree
      obtain rfl := List.mem_singleton.1 htree
      exact hreader.finish h
  | cons symbol rest ih =>
      have hrest : ∀ text, .term text ∈ rest → kind text := fun text hmem =>
        hsymbols text (List.mem_cons_of_mem _ hmem)
      cases hstep : reader.step symbol with
      | some next =>
          rw [parts_of_step_eq_some hstep]
          refine ih (hreader.step h (fun text htext => ?_) hstep) hrest
          exact hsymbols text (htext ▸ List.mem_cons_self ..)
      | none =>
          rw [parts_of_step_eq_none hstep, List.forall_mem_cons]
          exact ⟨hreader.finish h, ih .start hrest⟩

end Reader.Holds

end QueryTree

/-- The terms among the symbols of tokens are tokens. -/
theorem Symbol.mem_of_term_mem_of_tokens {text : String} {tokens : List String}
    (h : .term text ∈ ofTokens tokens) : text ∈ tokens := by
  have hsingle {token : String} (htoken : .term text = ofToken token) : text = token := by
    rcases of_token_cases token with ⟨_, heq⟩ | ⟨_, heq⟩ | ⟨_, ⟨_, heq⟩ | heq⟩
    all_goals rw [heq] at htoken
    · exact absurd htoken (by simp)
    · exact absurd htoken (by simp)
    · exact absurd htoken (by simp)
    · exact Symbol.term.inj htoken
  induction tokens using ofTokens.induct with
  | case1 => exact absurd h List.not_mem_nil
  | case2 token => exact List.mem_singleton.2 (hsingle (List.mem_singleton.1 h))
  | case3 token next rest hdash ih =>
      rw [ofTokens, if_pos hdash] at h
      have hrest := (List.mem_cons.1 h).resolve_left (by simp)
      exact List.mem_cons_of_mem _ (List.mem_cons_of_mem _ (ih hrest))
  | case4 token next rest hdash ih =>
      rw [ofTokens, if_neg hdash] at h
      rcases List.mem_cons.1 h with htoken | hrest
      · exact hsingle htoken ▸ List.mem_cons_self ..
      · exact List.mem_cons_of_mem _ (ih hrest)

/-- The predicate of a query is the conjunction of predicates with the property of groups at the top, if the
tokens of the query are of the kind. -/
theorem IsGraded.compile_query {kind : String → Prop} {item group : Nat → Predicate → Prop}
    (h : IsGraded kind item group) {query : String} (htokens : ∀ token ∈ tokenize query, kind token) :
    ∃ parts, compile query = .allOf parts ∧ ∀ p ∈ parts, group 0 p := by
  refine ⟨_, compile_eq_all_of_groups query, fun p hp => ?_⟩
  obtain ⟨tree, htree, hp⟩ := List.mem_flatMap.1 hp
  rw [QueryTree.read_all_eq_parts] at htree
  refine QueryTree.Reader.Holds.parts h .start (fun text htext => ?_) tree htree p hp
  exact htokens text (Symbol.mem_of_term_mem_of_tokens htext)

end CardCatalog
