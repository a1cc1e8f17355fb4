import CardCatalog.Query.Tree
import Mathlib.Data.List.Forall2

/-!
# Queries with fewer `or`s

Leaving `or`s out of a query changes nothing but the groups that they would have kept open: each group
of the query is split into consecutive groups (`groups_split_read_part`). The two readings go side by
side; the one without the `or` has completed the group that the other one holds open.
-/

namespace CardCatalog

/-- The first list is the second without some of its `or`s. -/
inductive Symbol.OrsDropped : List Symbol → List Symbol → Prop where
  | nil : OrsDropped [] []
  | keep (symbol : Symbol) {xs ys : List Symbol} (hrest : OrsDropped xs ys) :
      OrsDropped (symbol :: xs) (symbol :: ys)
  | drop {xs ys : List Symbol} (hrest : OrsDropped xs ys) : OrsDropped xs (.orWord :: ys)

/-! ## Split groups -/

mutual

/-- The same item, with the groups of nested queries split in the first one. -/
inductive ItemSplit : QueryItem → QueryItem → Prop where
  | term (text : String) : ItemSplit (.term text) (.term text)
  | nested (negated : Bool) {fine coarse : List (List QueryItem)}
      (hgroups : GroupsSplit fine coarse) :
      ItemSplit (.nested negated fine) (.nested negated coarse)

/-- The same items, with the groups of nested queries split in the first list. -/
inductive ItemsSplit : List QueryItem → List QueryItem → Prop where
  | nil : ItemsSplit [] []
  | cons {x y : QueryItem} {xs ys : List QueryItem} (hfirst : ItemSplit x y)
      (hrest : ItemsSplit xs ys) : ItemsSplit (x :: xs) (y :: ys)

/-- The same query, with each group of the second one split into consecutive groups in the first. -/
inductive GroupsSplit : List (List QueryItem) → List (List QueryItem) → Prop where
  | nil : GroupsSplit [] []
  | cons {pieces fine coarse : List (List QueryItem)} {items : List QueryItem}
      (hitems : ItemsSplit pieces.flatten items) (hrest : GroupsSplit fine coarse) :
      GroupsSplit (pieces ++ fine) (items :: coarse)

end

/-- Items that follow each other are split one after the other. -/
theorem ItemsSplit.append {xs ys vs ws : List QueryItem} (h : ItemsSplit xs ys)
    (hnext : ItemsSplit vs ws) : ItemsSplit (xs ++ vs) (ys ++ ws) := by
  match h with
  | .nil => exact hnext
  | .cons hfirst hrest => exact .cons hfirst (hrest.append hnext)

/-- A further group is split by itself. -/
theorem GroupsSplit.concat {fine coarse pieces : List (List QueryItem)} {items : List QueryItem}
    (h : GroupsSplit fine coarse) (hitems : ItemsSplit pieces.flatten items) :
    GroupsSplit (fine ++ pieces) (coarse ++ [items]) := by
  match h with
  | .nil =>
      have hgroups := GroupsSplit.cons hitems .nil
      rwa [List.append_nil] at hgroups
  | .cons hfirst hrest =>
      rw [List.append_assoc]
      exact .cons hfirst (hrest.concat hitems)

/-- Only no items are split into no items. -/
theorem ItemsSplit.eq_nil {xs : List QueryItem} (h : ItemsSplit xs []) : xs = [] := by
  cases h
  rfl

namespace QueryTree

/-! ## Two readings side by side -/

/-- A level whose group has been completed has no open items. -/
theorem Level.items_close (level : Level) : level.close.items = [] := by
  rw [close]
  split
  · rename_i hempty
    exact List.isEmpty_iff.1 hempty
  · rfl

/-- A level whose group has been completed has no item that has just ended. -/
theorem Level.ended_close (level : Level) : level.close.ended = false := by
  rw [close]
  split <;> rfl

/-- Two levels that have read the same items: the groups that the second one has completed are split
in the first, which has also completed pieces of the group that is open in the second. -/
structure LevelSplit (fine coarse : Level) : Prop where
  ended : coarse.ended = true → fine.ended = true
  items : ∃ closed pieces, fine.groups = closed ++ pieces ∧ GroupsSplit closed coarse.groups ∧
    ItemsSplit (pieces ++ [fine.items]).flatten coarse.items ∧ [] ∉ pieces

namespace LevelSplit

variable {fine coarse : Level}

/-- Two levels of which nothing has been read. -/
theorem start : LevelSplit .start .start :=
  ⟨id, [], [], rfl, .nil, .nil, List.not_mem_nil⟩

/-- An `or` that only the second level reads keeps its group open. -/
theorem join_right (h : LevelSplit fine coarse) : LevelSplit fine coarse.join :=
  ⟨fun hended => absurd hended (by simp [Level.join]), h.items⟩

/-- An `or` that both levels read keeps their groups open. -/
theorem join (h : LevelSplit fine coarse) : LevelSplit fine.join coarse.join :=
  ⟨fun hended => absurd hended (by simp [Level.join]), h.items⟩

/-- The first level completes a piece of the group that is open in the second. -/
theorem close_left (h : LevelSplit fine coarse) (hopen : coarse.ended = false) :
    LevelSplit fine.close coarse := by
  refine ⟨fun hended => absurd (hended.symm.trans hopen) (by decide), ?_⟩
  obtain ⟨closed, pieces, hgroups, hclosed, hitems, hpieces⟩ := h.items
  rw [Level.close]
  split
  · exact ⟨closed, pieces, hgroups, hclosed, hitems, hpieces⟩
  · rename_i hfilled
    refine ⟨closed, pieces ++ [fine.items], by simp [hgroups], hclosed, by simpa using hitems, ?_⟩
    intro hmem
    rcases List.mem_append.1 hmem with hmem | hmem
    · exact hpieces hmem
    · rw [← List.mem_singleton.1 hmem] at hfilled
      exact hfilled rfl

/-- The queries that have been read are split. -/
theorem tree (h : LevelSplit fine coarse) : GroupsSplit fine.tree coarse.tree := by
  obtain ⟨closed, pieces, hgroups, hclosed, hitems, hpieces⟩ := h.items
  rw [Level.tree, Level.tree, Level.close, Level.close]
  cases hcoarse : coarse.items with
  | nil =>
      -- Nothing stands in the open group of the second level, so no piece of it is complete.
      rw [hcoarse] at hitems
      have hempty := List.flatten_eq_nil_iff.1 hitems.eq_nil
      have hfine : fine.items = [] := hempty _ (by simp)
      obtain rfl : pieces = [] := by
        refine List.eq_nil_iff_forall_not_mem.2 fun piece hpiece => hpieces ?_
        rwa [hempty piece (List.mem_append_left _ hpiece)] at hpiece
      rw [List.append_nil] at hgroups
      simpa [hfine, hgroups] using hclosed
  | cons item items =>
      rw [hcoarse] at hitems
      split
      · rename_i hfine
        rw [List.isEmpty_iff.1 hfine] at hitems
        rw [hgroups]
        exact hclosed.concat (by simpa using hitems)
      · rw [hgroups, List.append_assoc]
        exact hclosed.concat hitems

/-- Both levels complete their groups. -/
theorem close (h : LevelSplit fine coarse) : LevelSplit fine.close coarse.close := by
  have hfine : fine.close.items = [] := Level.items_close fine
  have hcoarse : coarse.close.items = [] := Level.items_close coarse
  refine ⟨fun hended => ?_, fine.close.groups, [], by simp, h.tree, ?_, List.not_mem_nil⟩
  · rw [Level.ended_close] at hended
    exact absurd hended (by decide)
  · rw [hfine, hcoarse]
    exact .nil

/-- A symbol that is no `or` completes groups whose last item has just ended. -/
theorem settle (h : LevelSplit fine coarse) : LevelSplit fine.settle coarse.settle := by
  rw [Level.settle, Level.settle]
  cases hcoarse : coarse.ended with
  | true =>
      rw [if_pos (h.ended hcoarse)]
      exact h.close
  | false =>
      split
      · exact h.close_left hcoarse
      · exact h

/-- Both levels read an item. -/
theorem push (h : LevelSplit fine coarse) {x y : QueryItem} (hitem : ItemSplit x y) :
    LevelSplit (fine.push x) (coarse.push y) := by
  obtain ⟨closed, pieces, hgroups, hclosed, hitems, hpieces⟩ := h.items
  refine ⟨fun _ => rfl, closed, pieces, hgroups, hclosed, ?_, hpieces⟩
  have happended := hitems.append (.cons hitem .nil)
  simpa [Level.push] using happended

end LevelSplit

/-- The levels around two nested queries of the same sign, those of the first split. -/
inductive EnclosingSplit : Bool × Level → Bool × Level → Prop where
  | mk (negated : Bool) {fine coarse : Level} (hlevel : LevelSplit fine coarse) :
      EnclosingSplit (negated, fine) (negated, coarse)

/-- Two readings that have opened the same parentheses, with the levels of the first split. -/
structure ReaderSplit (fine coarse : Reader) : Prop where
  outer : List.Forall₂ EnclosingSplit fine.outer coarse.outer
  level : LevelSplit fine.level coarse.level
  skipped : fine.skipped = coarse.skipped

namespace ReaderSplit

variable {fine coarse : Reader}

/-- Two readings that start. -/
theorem start : ReaderSplit .start .start :=
  ⟨.nil, .start, rfl⟩

/-- Two readings take the same step. -/
theorem step (h : ReaderSplit fine coarse) (symbol : Symbol) :
    Option.Rel ReaderSplit (fine.step symbol) (coarse.step symbol) := by
  obtain ⟨outer, level, skipped⟩ := fine
  obtain ⟨outer', level', skipped'⟩ := coarse
  obtain ⟨houter, hlevel, hskipped⟩ := h
  obtain rfl : skipped = skipped' := hskipped
  cases symbol with
  | term text => exact .some ⟨houter, hlevel.settle.push (.term text), rfl⟩
  | orWord => exact .some ⟨houter, hlevel.join, rfl⟩
  | opening negated =>
      have hlength : outer.length = outer'.length := houter.length_eq
      rw [Reader.step, Reader.step]
      by_cases hlimit : outer'.length < maxDepth
      · simp only [hlength, hlimit, if_true]
        exact .some ⟨.cons (.mk negated hlevel.settle) houter, .start, rfl⟩
      · simp only [hlength, hlimit, if_false]
        exact .some ⟨houter, hlevel.settle, rfl⟩
  | closing =>
      cases skipped with
      | succ skipped => exact .some ⟨houter, hlevel.settle, rfl⟩
      | zero =>
          cases houter with
          | nil => exact .none
          | cons hfirst hrest =>
              obtain ⟨negated, henclosing⟩ := hfirst
              exact .some ⟨hrest, henclosing.push (.nested negated hlevel.tree), rfl⟩

/-- An `or` that only the second reading reads keeps its group open. -/
theorem join_right (h : ReaderSplit fine coarse) :
    ReaderSplit fine { coarse with level := coarse.level.join } :=
  ⟨h.outer, h.level.join_right, h.skipped⟩

/-- Queries that are still open at the end are split. -/
theorem close_all {fine coarse : Level} {outer outer' : List (Bool × Level)}
    (hlevel : LevelSplit fine coarse)
    (houter : List.Forall₂ EnclosingSplit outer outer') :
    GroupsSplit (Reader.closeAll fine outer) (Reader.closeAll coarse outer') := by
  induction houter generalizing fine coarse with
  | nil => exact hlevel.tree
  | cons hfirst hrest ih =>
      obtain ⟨negated, henclosing⟩ := hfirst
      exact ih (henclosing.push (.nested negated hlevel.tree))

end ReaderSplit

/-- Readings of symbols with and without some `or`s have split groups. -/
theorem groups_split_run {xs ys : List Symbol} (hdropped : Symbol.OrsDropped xs ys)
    {fine coarse : Reader} (h : ReaderSplit fine coarse) :
    GroupsSplit (fine.run xs).1 (coarse.run ys).1 := by
  induction hdropped generalizing fine coarse with
  | nil => exact ReaderSplit.close_all h.level h.outer
  | keep symbol hrest ih =>
      have hstep := h.step symbol
      rw [Reader.run, Reader.run]
      cases hfine : fine.step symbol with
      | none =>
          rw [hfine] at hstep
          cases hcoarse : coarse.step symbol with
          | none => exact ReaderSplit.close_all h.level h.outer
          | some next =>
              rw [hcoarse] at hstep
              cases hstep
      | some next =>
          rw [hfine] at hstep
          cases hcoarse : coarse.step symbol with
          | none =>
              rw [hcoarse] at hstep
              cases hstep
          | some next' =>
              rw [hcoarse] at hstep
              cases hstep with
              | some hnext => exact ih hnext
  | drop hrest ih => exact ih h.join_right

/-- Leaving `or`s out of a query splits its groups. -/
theorem groups_split_read_part {xs ys : List Symbol} (h : Symbol.OrsDropped xs ys) :
    GroupsSplit (readPart xs).1 (readPart ys).1 :=
  groups_split_run h .start

end QueryTree

end CardCatalog
