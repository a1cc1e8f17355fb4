import CardCatalog.Proofs.Query.Meaning
import CardCatalog.Proofs.Query.Token
import Mathlib.Data.List.Chain

/-!
# Written queries

`QueryTree.tokens` writes a query tree: `or` stands between the items of a group, nothing between
groups, parentheses around a nested query, and a dash before them if it is negated. Reading undoes
writing for every tree within the depth limit whose groups have items and whose terms cannot be taken
for anything else (`read_part_symbols`), so the tokens mean what the tree means
(`parse_expression_written`).
-/

namespace CardCatalog

namespace Symbol

/-- The tokens that stand for a symbol. -/
def tokens : Symbol → List String
  | .opening negated => if negated then ["-", "("] else ["("]
  | .closing => [")"]
  | .orWord => ["or"]
  | .term text => [text]

/-- A token that is read as a term: no parenthesis, and not the word `or`. -/
def IsPlain (text : String) : Prop :=
  text ≠ "(" ∧ text ≠ ")" ∧ isOr text = false

/-- No lone dash stands directly before a parenthesis that it does not belong to. -/
def DashesApart (symbols : List Symbol) : Prop :=
  symbols.IsChain fun symbol next => ¬(symbol = .term "-" ∧ next = .opening false)

end Symbol

mutual

/-- The symbols of an item. -/
def QueryItem.symbols : QueryItem → List Symbol
  | .term text => [.term text]
  | .nested negated groups => .opening negated :: (groupsSymbols groups ++ [.closing])

/-- The symbols of the items of a group, with `or` between them. -/
def itemsSymbols : List QueryItem → List Symbol
  | [] => []
  | [item] => item.symbols
  | item :: next :: items => item.symbols ++ .orWord :: itemsSymbols (next :: items)

/-- The symbols of groups, one group after the other. -/
def groupsSymbols : List (List QueryItem) → List Symbol
  | [] => []
  | items :: groups => itemsSymbols items ++ groupsSymbols groups

end

mutual

/-- How deep the parentheses of an item nest. -/
def QueryItem.depth : QueryItem → Nat
  | .term _ => 0
  | .nested _ groups => groupsDepth groups + 1

/-- How deep the parentheses of some items nest. -/
def itemsDepth : List QueryItem → Nat
  | [] => 0
  | item :: items => max item.depth (itemsDepth items)

/-- How deep the parentheses of some groups nest. -/
def groupsDepth : List (List QueryItem) → Nat
  | [] => 0
  | items :: groups => max (itemsDepth items) (groupsDepth groups)

end

mutual

/-- No group within an item is empty. -/
def QueryItem.IsFilled : QueryItem → Prop
  | .term _ => True
  | .nested _ groups => GroupsFilled groups

/-- No group within some items is empty. -/
def ItemsFilled : List QueryItem → Prop
  | [] => True
  | item :: items => item.IsFilled ∧ ItemsFilled items

/-- None of some groups is empty, nor any group within them. -/
def GroupsFilled : List (List QueryItem) → Prop
  | [] => True
  | items :: groups => items ≠ [] ∧ ItemsFilled items ∧ GroupsFilled groups

end

namespace QueryTree

/-- The symbols of a query. -/
def symbols (tree : QueryTree) : List Symbol :=
  groupsSymbols tree

/-- The tokens of a query. -/
def tokens (tree : QueryTree) : List String :=
  tree.symbols.flatMap Symbol.tokens

/-- A query that can be written: its groups have items, its parentheses nest within the limit, its
terms are read as terms, and no lone dash among them stands before a parenthesis. -/
structure IsWritable (tree : QueryTree) : Prop where
  filled : GroupsFilled tree
  depth_le : groupsDepth tree ≤ maxDepth
  plain : ∀ text, Symbol.term text ∈ tree.symbols → Symbol.IsPlain text
  dashesApart : Symbol.DashesApart tree.symbols

namespace Level

/-- Nothing is open in the level that the next item could join: it has no open items, or the last of
them has ended. -/
def IsSettled (level : Level) : Prop :=
  level.items = [] ∨ level.ended = true

/-- Settling a level without an open `or` completes its last group. -/
theorem settle_of_is_settled {level : Level} (h : level.IsSettled) :
    level.settle = ⟨level.tree, [], false⟩ := by
  obtain ⟨groups, items, ended⟩ := level
  rcases h with h | h
  · obtain rfl : items = [] := h
    cases ended <;> rfl
  · obtain rfl : ended = true := h
    cases items <;> rfl

/-- A level whose last item has ended holds its groups and the group of that item. -/
theorem tree_of_items {groups : QueryTree} {items : List QueryItem} (hitems : items ≠ []) :
    (Level.mk groups items true).tree = groups ++ [items] := by
  cases items with
  | nil => exact absurd rfl hitems
  | cons item items => rfl

end Level

namespace Reader

/-- A symbol that can be read is read before the rest. -/
theorem run_cons {reader next : Reader} {symbol : Symbol} (h : reader.step symbol = some next)
    (rest : List Symbol) : reader.run (symbol :: rest) = next.run rest := by
  rw [run, h]

/-- An opening parenthesis within the depth limit starts a nested query. -/
theorem step_opening {outer : List (Bool × Level)} (h : outer.length < maxDepth) (level : Level)
    (skipped : Nat) (negated : Bool) :
    step ⟨outer, level, skipped⟩ (.opening negated) =
      some ⟨(negated, level.settle) :: outer, .start, 0⟩ := by
  simp only [step, h, if_true]

end Reader

mutual

/-- Reading the symbols of an item adds the item to the level that is open. -/
theorem run_item_symbols (item : QueryItem) (hfilled : item.IsFilled)
    {outer : List (Bool × Level)} (hdepth : outer.length + item.depth ≤ maxDepth) (level : Level)
    (rest : List Symbol) :
    Reader.run ⟨outer, level, 0⟩ (item.symbols ++ rest) =
      Reader.run ⟨outer, level.settle.push item, 0⟩ rest := by
  cases item with
  | term text =>
      rw [QueryItem.symbols]
      exact Reader.run_cons rfl rest
  | nested negated groups =>
      rw [QueryItem.depth] at hdepth
      rw [QueryItem.IsFilled] at hfilled
      have hopen : outer.length < maxDepth := by omega
      have hinner : ((negated, level.settle) :: outer).length + groupsDepth groups ≤ maxDepth := by
        rw [List.length_cons]
        omega
      -- The levels around wait untouched until the closing parenthesis finds the innermost again.
      have hstart : Level.start.IsSettled := .inl rfl
      obtain ⟨inner, htree, hrun⟩ := run_groups_symbols groups hfilled hinner hstart
      rw [QueryItem.symbols, List.cons_append, List.append_assoc,
        Reader.run_cons (Reader.step_opening hopen level 0 negated), hrun.2]
      refine Reader.run_cons ?_ rest
      simp only [Reader.step]
      rw [htree]
      rfl

/-- Reading the symbols of a group adds its items to the level that is open, after those that are
there. -/
theorem run_items_symbols (items : List QueryItem) (hitems : items ≠ [])
    (hfilled : ItemsFilled items) {outer : List (Bool × Level)}
    (hdepth : outer.length + itemsDepth items ≤ maxDepth) (level : Level) (rest : List Symbol) :
    Reader.run ⟨outer, level, 0⟩ (itemsSymbols items ++ rest) =
      Reader.run ⟨outer, ⟨level.settle.groups, level.settle.items ++ items, true⟩, 0⟩ rest := by
  match items with
  | [] => exact absurd rfl hitems
  | [item] =>
      rw [itemsDepth] at hdepth
      rw [itemsSymbols]
      exact run_item_symbols item hfilled.1 (by omega) level rest
  | item :: next :: items =>
      rw [itemsDepth] at hdepth
      have hrest : outer.length + itemsDepth (next :: items) ≤ maxDepth := by omega
      rw [itemsSymbols, List.append_assoc, run_item_symbols item hfilled.1 (by omega) level,
        List.cons_append, Reader.run_cons rfl,
        run_items_symbols (next :: items) (List.cons_ne_nil _ _) hfilled.2 hrest]
      simp [Level.settle, Level.push, Level.join]

/-- Reading the symbols of groups adds the groups to a level in which nothing is open. -/
theorem run_groups_symbols (groups : List (List QueryItem)) (hfilled : GroupsFilled groups)
    {outer : List (Bool × Level)} (hdepth : outer.length + groupsDepth groups ≤ maxDepth)
    {level : Level} (hlevel : level.IsSettled) :
    ∃ next : Level, next.tree = level.tree ++ groups ∧ next.IsSettled ∧
      ∀ rest, Reader.run ⟨outer, level, 0⟩ (groupsSymbols groups ++ rest) =
        Reader.run ⟨outer, next, 0⟩ rest := by
  cases groups with
  | nil => exact ⟨level, (List.append_nil _).symm, hlevel, fun rest => by rw [groupsSymbols]; rfl⟩
  | cons items groups =>
      rw [groupsDepth] at hdepth
      rw [GroupsFilled] at hfilled
      obtain ⟨hitems, hfilledItems, hfilledGroups⟩ := hfilled
      have hfirst : outer.length + itemsDepth items ≤ maxDepth := by omega
      have hrest : outer.length + groupsDepth groups ≤ maxDepth := by omega
      have hread := run_items_symbols items hitems hfilledItems hfirst level
      rw [Level.settle_of_is_settled hlevel, List.nil_append] at hread
      -- The last item of the group has ended, so the next group cannot join it.
      have hsettled : (Level.mk level.tree items true).IsSettled := .inr rfl
      obtain ⟨next, htree, hnext, hrun⟩ :=
        run_groups_symbols groups hfilledGroups hrest hsettled
      refine ⟨next, ?_, hnext, fun rest => ?_⟩
      · rw [htree, Level.tree_of_items hitems, List.append_assoc]
        rfl
      · rw [groupsSymbols, List.append_assoc, hread, hrun]

end

/-- Reading undoes writing. -/
theorem read_part_symbols {tree : QueryTree} (hfilled : GroupsFilled tree)
    (hdepth : groupsDepth tree ≤ maxDepth) : readPart tree.symbols = (tree, []) := by
  have houtermost : ([] : List (Bool × Level)).length + groupsDepth tree ≤ maxDepth := by
    simpa using hdepth
  have hstart : Level.start.IsSettled := .inl rfl
  obtain ⟨next, htree, _, hrun⟩ := run_groups_symbols tree hfilled houtermost hstart
  have hread := hrun []
  rw [List.append_nil] at hread
  rw [readPart, Reader.start, symbols, hread, Reader.run, Reader.finish, Reader.closeAll, htree]
  rfl

end QueryTree

namespace Symbol

/-- A plain text is read as a term. -/
theorem of_token_of_is_plain {text : String} (h : IsPlain text) : ofToken text = .term text := by
  obtain ⟨hopening, hclosing, hor⟩ := h
  rw [ofToken, if_neg hopening, if_neg hclosing, hor]
  rfl

/-- Among symbols whose terms are plain, a parenthesis without a dash is the only one that is written
with an opening parenthesis in front. -/
theorem head_tokens_eq_opening {symbols : List Symbol}
    (hplain : ∀ text, .term text ∈ symbols → IsPlain text)
    (h : (symbols.flatMap tokens).head? = some "(") : symbols.head? = some (.opening false) := by
  cases symbols with
  | nil => simp at h
  | cons symbol rest =>
      rw [List.flatMap_cons] at h
      cases symbol with
      | opening negated =>
          cases negated with
          | true => simp [tokens] at h
          | false => rfl
      | closing => simp [tokens] at h
      | orWord => simp [tokens] at h
      | term text =>
          have htext : text = "(" := by simpa [tokens] using h
          exact absurd htext (hplain text (by simp)).1

/-- Symbols are read back from their tokens, if their terms are plain and no dash is misplaced. -/
theorem of_tokens_flat_map_tokens {symbols : List Symbol}
    (hplain : ∀ text, .term text ∈ symbols → IsPlain text) (hdashes : DashesApart symbols) :
    ofTokens (symbols.flatMap tokens) = symbols := by
  induction symbols with
  | nil => rw [List.flatMap_nil, ofTokens]
  | cons symbol rest ih =>
      have hplainRest : ∀ text, .term text ∈ rest → IsPlain text :=
        fun text hmem => hplain text (List.mem_cons_of_mem _ hmem)
      have hrest := ih hplainRest hdashes.tail
      rw [List.flatMap_cons]
      cases symbol with
      | opening negated =>
          cases negated with
          | true => simp [tokens, ofTokens, hrest]
          | false =>
              rw [tokens, if_neg (by decide), List.singleton_append, of_tokens_cons (by simp), hrest]
              rfl
      | closing =>
          rw [tokens, List.singleton_append, of_tokens_cons (by simp), hrest]
          rfl
      | orWord =>
          rw [tokens, List.singleton_append, of_tokens_cons (by simp), hrest]
          rfl
      | term text =>
          -- A dash in front of a written parenthesis would have to stand before `opening false`.
          have hapart : ¬(text = "-" ∧ (rest.flatMap tokens).head? = some "(") := by
            rintro ⟨rfl, hhead⟩
            obtain ⟨tail, rfl⟩ :=
              List.head?_eq_some_iff.1 (head_tokens_eq_opening hplainRest hhead)
            exact (List.isChain_cons_cons.1 hdashes).1 ⟨rfl, rfl⟩
          rw [tokens, List.singleton_append, of_tokens_cons hapart, hrest,
            of_token_of_is_plain (hplain text (by simp))]

/-- A symbol is as wide as it has tokens. -/
theorem length_tokens (symbol : Symbol) : symbol.tokens.length = symbol.width := by
  cases symbol with
  | opening negated => cases negated <;> rfl
  | closing | orWord | term text => rfl

/-- Symbols are as wide as they have tokens. -/
theorem total_width_eq (symbols : List Symbol) :
    totalWidth symbols = (symbols.flatMap tokens).length := by
  induction symbols with
  | nil => rfl
  | cons symbol rest ih =>
      rw [totalWidth, ih, List.flatMap_cons, List.length_append, length_tokens]

end Symbol

namespace QueryTree

/-- The tokens of a query that can be written mean what the query means, and they are read to their
end. -/
theorem parse_expression_written (tree : QueryTree) (h : tree.IsWritable) :
    parseExpression tree.tokens 0 = (tree.meaning?, tree.tokens.length) := by
  have hsymbols : Symbol.ofTokens tree.tokens = tree.symbols :=
    Symbol.of_tokens_flat_map_tokens h.plain h.dashesApart
  have hread : readPart tree.symbols = (tree, []) := read_part_symbols h.filled h.depth_le
  simp only [parseExpression, List.drop_zero, hsymbols, hread, List.length_nil, Nat.sub_zero,
    List.take_length, Symbol.total_width_eq, Nat.zero_add]
  rfl

/-- An alternative that is a negated query, with a lone dash before its closing parenthesis, is read
to the last of its seven tokens. -/
theorem parse_expression_written_negated :
    IsWritable [[.term "bolt", .nested true [[.term "t:elf"], [.term "-"]]]] ∧
      parseExpression ["bolt", "or", "-", "(", "t:elf", "-", ")"] 0 =
        (some (.any [.test (.matchesPattern .name "bolt"), .test (.matchesPattern .flavorName "bolt"),
          .not (.all [.test (.matchesPattern .typeLine "elf"),
            .any [.test (.matchesPattern .name "\\-"),
              .test (.matchesPattern .flavorName "\\-")]])]), 7) := by
  have hwritable :
      IsWritable [[.term "bolt", .nested true [[.term "t:elf"], [.term "-"]]]] := by
    refine ⟨?_, by decide, ?_, ?_⟩
    · simp [GroupsFilled, ItemsFilled, QueryItem.IsFilled]
    · intro text htext
      have hcases : text = "bolt" ∨ text = "t:elf" ∨ text = "-" := by
        simpa [symbols, groupsSymbols, itemsSymbols, QueryItem.symbols] using htext
      rcases hcases with rfl | rfl | rfl <;> exact ⟨by decide, by decide, by decide⟩
    · simp [Symbol.DashesApart, symbols, groupsSymbols, itemsSymbols, QueryItem.symbols]
  refine ⟨hwritable, (parse_expression_written _ hwritable).trans ?_⟩
  rfl

end QueryTree

end CardCatalog
