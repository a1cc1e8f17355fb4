import CardCatalog.Proofs.Query.Balance
import CardCatalog.Proofs.Query.DepthLimit
import CardCatalog.Proofs.Query.OpenParens
import CardCatalog.Proofs.Query.Written

/-!
# Queries one after the other

The reading of a whole query goes on after a closing parenthesis that closes nothing, with its next part
(`read_all_eq_parts`). What a reading does with some symbols and with those after them is therefore what
it does with each (`parts_append`). Closing parentheses at the end add at most empty parts
(`group_meanings_concat_closing`). A query that leaves nothing open is read as it is on its own when
another one follows, either in parts of its own (`read_all_append_closing`) or with the last of them
continued by the first part of the other (`read_all_append`).
-/

namespace CardCatalog

namespace QueryTree

namespace Reader

/-! ## Reading on -/

/-- The parts of a query that end within the symbols, each before a closing parenthesis that closes
nothing. -/
def ended (reader : Reader) : List Symbol → List QueryTree
  | [] => []
  | symbol :: rest =>
      match reader.step symbol with
      | some next => next.ended rest
      | none => reader.finish :: start.ended rest

/-- The reading after the symbols, of the part that is then open. -/
def after (reader : Reader) : List Symbol → Reader
  | [] => reader
  | symbol :: rest =>
      match reader.step symbol with
      | some next => next.after rest
      | none => start.after rest

/-- The parts of a query whose last symbols these are. -/
def parts (reader : Reader) (symbols : List Symbol) : List QueryTree :=
  reader.ended symbols ++ [(reader.after symbols).finish]

variable {reader next : Reader} {symbol : Symbol}

/-- A symbol that is read ends no part. -/
theorem parts_of_step_eq_some (h : reader.step symbol = some next) (rest : List Symbol) :
    reader.parts (symbol :: rest) = next.parts rest := by
  rw [parts, ended, after, h]
  rfl

/-- A closing parenthesis that closes nothing ends a part. -/
theorem parts_of_step_eq_none (h : reader.step symbol = none) (rest : List Symbol) :
    reader.parts (symbol :: rest) = reader.finish :: start.parts rest := by
  rw [parts, ended, after, h]
  rfl

/-- What is read after some symbols is read from the reading that they leave. -/
theorem ended_append_and_after_append (reader : Reader) (xs ys : List Symbol) :
    reader.ended (xs ++ ys) = reader.ended xs ++ (reader.after xs).ended ys ∧
      reader.after (xs ++ ys) = (reader.after xs).after ys := by
  induction xs generalizing reader with
  | nil => exact ⟨rfl, rfl⟩
  | cons x xs ih =>
      rw [List.cons_append, ended, after, ended, after]
      cases reader.step x with
      | some next => exact ih next
      | none =>
          obtain ⟨hended, hafter⟩ := ih start
          exact ⟨congrArg (reader.finish :: ·) hended, hafter⟩

/-- The parts of a query are those that end within its first symbols, and those of the rest. -/
theorem parts_append (reader : Reader) (xs ys : List Symbol) :
    reader.parts (xs ++ ys) = reader.ended xs ++ (reader.after xs).parts ys := by
  obtain ⟨hended, hafter⟩ := ended_append_and_after_append reader xs ys
  rw [parts, hended, hafter, List.append_assoc, parts]

/-- The first part is what a single reading reads, and the others follow what it leaves unread. -/
theorem parts_eq_run_cons (reader : Reader) (symbols : List Symbol) :
    reader.parts symbols = (reader.run symbols).1 ::
      match (reader.run symbols).2 with
      | [] => []
      | _ :: rest => start.parts rest := by
  induction symbols generalizing reader with
  | nil => rfl
  | cons symbol rest ih =>
      rw [run]
      cases hstep : reader.step symbol with
      | some next => rw [parts_of_step_eq_some hstep, ih]
      | none => rw [parts_of_step_eq_none hstep]

end Reader

/-- A query has the parts that a reading of all of its symbols finds. -/
theorem read_all_eq_parts (symbols : List Symbol) : readAll symbols = Reader.start.parts symbols := by
  induction symbols using readAll.induct with
  | case1 symbols hunread =>
      rw [Reader.parts_eq_run_cons, ← readPart, hunread]
      exact read_all_of_read_part (Prod.ext rfl hunread)
  | case2 symbols symbol rest hunread hlt ih =>
      rw [Reader.parts_eq_run_cons, ← readPart, hunread, read_all_of_unread hunread, ih]

/-! ## Closing parentheses at the end -/

/-- A closing parenthesis that is read leaves to the end of the query what it would have closed. -/
theorem finish_of_step_closing {reader next : Reader} (h : reader.step .closing = some next) :
    next.finish = reader.finish := by
  obtain ⟨outer, level, skipped⟩ := reader
  cases skipped with
  | succ skipped =>
      obtain rfl := Option.some.inj h
      exact close_all_settle_if true level outer
  | zero =>
      cases outer with
      | nil => exact absurd h (by simp [Reader.step])
      | cons enclosing outer =>
          obtain rfl := Option.some.inj h
          rfl

/-- A closing parenthesis at the end of a query changes none of the groups that mean something. -/
theorem group_meanings_concat_closing (symbols : List Symbol) :
    (readAll (symbols ++ [.closing])).flatMap groupMeanings =
      (readAll symbols).flatMap groupMeanings := by
  have hlast : ((Reader.start.after symbols).parts [.closing]).flatMap groupMeanings =
      groupMeanings (Reader.start.after symbols).finish := by
    cases hstep : (Reader.start.after symbols).step .closing with
    | some next =>
        rw [Reader.parts_of_step_eq_some hstep, ← finish_of_step_closing hstep]
        exact List.flatMap_singleton ..
    | none =>
        -- The part after the parenthesis is empty.
        rw [Reader.parts_of_step_eq_none hstep]
        exact List.append_nil _
  rw [read_all_eq_parts, read_all_eq_parts, Reader.parts_append, List.flatMap_append, hlast,
    Reader.parts, List.flatMap_append, List.flatMap_singleton]

/-! ## A query after another -/

namespace Reader

/-- After some symbols as many parentheses are open as a count of them says. -/
theorem opened_after {reader : Reader} (h : reader.SkipsAtLimit) (symbols : List Symbol) :
    (reader.after symbols).SkipsAtLimit ∧
      (reader.after symbols).opened = symbols.foldl Symbol.openAfter reader.opened := by
  induction symbols generalizing reader with
  | nil => exact ⟨h, rfl⟩
  | cons symbol rest ih =>
      rw [after, List.foldl_cons]
      cases hstep : reader.step symbol with
      | some next =>
          obtain ⟨hnext, hopened⟩ := opened_step h hstep
          rw [← hopened]
          exact ih hnext
      | none =>
          obtain ⟨rfl, hopened⟩ := (step_eq_none_iff reader symbol).1 hstep
          rw [hopened]
          exact ih skips_at_limit_start

/-- A symbol that is no `or` leaves nothing that the next item could join, if it leaves no parenthesis
open. -/
theorem is_settled_of_step {reader next : Reader} {symbol : Symbol} (h : reader.SkipsAtLimit)
    (hstep : reader.step symbol = some next) (hopened : next.opened = 0) (hor : symbol ≠ .orWord) :
    next.level.IsSettled := by
  obtain ⟨outer, level, skipped⟩ := reader
  cases symbol with
  | term text =>
      obtain rfl := Option.some.inj hstep
      exact .inr rfl
  | orWord => exact absurd rfl hor
  | opening negated =>
      rw [step] at hstep
      split at hstep
      all_goals
        obtain rfl := Option.some.inj hstep
        exact absurd hopened (by simp [opened])
  | closing =>
      cases skipped with
      | succ skipped =>
          obtain rfl := Option.some.inj hstep
          -- Whatever is passed over stands in a query at the depth limit, which is still open.
          have hlimit : maxDepth ≤ outer.length := h (Nat.succ_pos skipped)
          rw [opened, Nat.add_eq_zero_iff] at hopened
          exact absurd (hopened.1 ▸ hlimit) (by decide)
      | zero =>
          cases outer with
          | nil => exact absurd hstep (by simp [step])
          | cons enclosing outer =>
              obtain rfl := Option.some.inj hstep
              exact .inr rfl

/-- A query that leaves no parenthesis open and does not end with an `or` leaves nothing that the next
item could join. -/
theorem after_eq_of_opened {symbols : List Symbol} (hopened : (start.after symbols).opened = 0)
    (hor : symbols.getLast? ≠ some .orWord) :
    ∃ level : Level, level.IsSettled ∧ start.after symbols = ⟨[], level, 0⟩ := by
  have hsettled : (start.after symbols).level.IsSettled := by
    rcases List.eq_nil_or_concat' symbols with rfl | ⟨first, last, rfl⟩
    · exact .inl rfl
    · obtain ⟨_, hafter⟩ := ended_append_and_after_append start first [last]
      rw [hafter, after] at hopened ⊢
      cases hstep : (start.after first).step last with
      | some next =>
          rw [hstep] at hopened
          refine is_settled_of_step (opened_after skips_at_limit_start first).1 hstep hopened ?_
          rintro rfl
          exact hor (by simp)
      | none => exact .inl rfl
  rw [opened, Nat.add_eq_zero_iff, List.length_eq_zero_iff] at hopened
  generalize start.after symbols = reader at hopened hsettled
  obtain ⟨outer, level, skipped⟩ := reader
  obtain ⟨rfl, rfl⟩ := hopened
  exact ⟨level, hsettled, rfl⟩

end Reader

/-- Where a query leaves no parenthesis open, a closing one separates it from the query that follows. -/
theorem read_all_append_closing {xs : List Symbol} (h : (Reader.start.after xs).opened = 0)
    (ys : List Symbol) : readAll (xs ++ .closing :: ys) = readAll xs ++ readAll ys := by
  have hstep := (Reader.step_eq_none_iff (Reader.start.after xs) .closing).2 ⟨rfl, h⟩
  rw [read_all_eq_parts, read_all_eq_parts, read_all_eq_parts, Reader.parts_append,
    Reader.parts_of_step_eq_none hstep, ← List.singleton_append, ← List.append_assoc]
  rfl

/-! ## Groups in front of a reading -/

namespace Level

/-- The level with further groups in front of its own. -/
def prepend (groups : QueryTree) (level : Level) : Level :=
  { level with groups := groups ++ level.groups }

/-- Completing the open group keeps the groups in front. -/
theorem close_prepend (groups : QueryTree) (level : Level) :
    (level.prepend groups).close = level.close.prepend groups := by
  rw [close, close]
  by_cases hitems : level.items.isEmpty
  · rw [if_pos hitems, if_pos (by exact hitems)]
    rfl
  · rw [if_neg hitems, if_neg (by exact hitems), prepend, prepend, List.append_assoc]

/-- Completing a group whose last item has ended keeps the groups in front. -/
theorem settle_prepend (groups : QueryTree) (level : Level) :
    (level.prepend groups).settle = level.settle.prepend groups := by
  rw [settle, settle]
  by_cases hended : level.ended = true
  · rw [if_pos hended, if_pos (by exact hended), close_prepend]
  · rw [if_neg hended, if_neg (by exact hended)]

/-- The query that has been read has the groups in front. -/
theorem tree_prepend (groups : QueryTree) (level : Level) :
    (level.prepend groups).tree = groups ++ level.tree := by
  rw [tree, close_prepend, prepend, tree]

end Level

/-- The second reading is the first with further groups in front of its outermost level. -/
inductive Preceded (groups : QueryTree) : Reader → Reader → Prop where
  | outermost (level : Level) (skipped : Nat) :
      Preceded groups ⟨[], level, skipped⟩ ⟨[], level.prepend groups, skipped⟩
  | nested (inner : List (Bool × Level)) (negated : Bool) (outermost level : Level)
      (skipped : Nat) :
      Preceded groups ⟨inner ++ [(negated, outermost)], level, skipped⟩
        ⟨inner ++ [(negated, outermost.prepend groups)], level, skipped⟩

namespace Preceded

variable {groups : QueryTree} {reader other : Reader}

/-- Both readings take the same step. -/
theorem step (h : Preceded groups reader other) (symbol : Symbol) :
    Option.Rel (Preceded groups) (reader.step symbol) (other.step symbol) := by
  cases h with
  | outermost level skipped =>
      cases symbol with
      | term text =>
          have hlevel : Preceded groups ⟨[], level.settle.push (.term text), skipped⟩ _ :=
            .outermost _ skipped
          simp only [Reader.step, Level.settle_prepend]
          exact .some hlevel
      | orWord => exact .some (.outermost level.join skipped)
      | opening negated =>
          simp only [Reader.step, Level.settle_prepend]
          exact .some (.nested [] negated level.settle .start 0)
      | closing =>
          cases skipped with
          | succ skipped =>
              simp only [Reader.step, Level.settle_prepend]
              exact .some (.outermost level.settle skipped)
          | zero => exact .none
  | nested inner negated outermost level skipped =>
      cases symbol with
      | term text => exact .some (.nested inner negated outermost _ skipped)
      | orWord => exact .some (.nested inner negated outermost _ skipped)
      | opening negated' =>
          simp only [Reader.step, List.length_append, List.length_singleton]
          split
          · exact .some (.nested ((negated', level.settle) :: inner) negated outermost .start 0)
          · exact .some (.nested inner negated outermost level.settle (skipped + 1))
      | closing =>
          cases skipped with
          | succ skipped => exact .some (.nested inner negated outermost level.settle skipped)
          | zero =>
              cases inner with
              | nil => exact .some (.outermost (outermost.push (.nested negated level.tree)) 0)
              | cons enclosing inner =>
                  obtain ⟨negated', enclosing⟩ := enclosing
                  exact .some (.nested inner negated outermost
                    (enclosing.push (.nested negated' level.tree)) 0)

/-- The query that the second reading has read has the groups in front. -/
theorem finish (h : Preceded groups reader other) : other.finish = groups ++ reader.finish := by
  cases h with
  | outermost level skipped => exact Level.tree_prepend groups level
  | nested inner negated outermost level skipped =>
      rw [Reader.finish, Reader.finish]
      induction inner generalizing level with
      | nil => exact Level.tree_prepend groups (outermost.push (.nested negated level.tree))
      | cons enclosing inner ih => exact ih _

/-- The groups in front belong to the first part, and the other parts are the same. -/
theorem parts (h : Preceded groups reader other) (symbols : List Symbol) :
    ∃ first others, reader.parts symbols = first :: others ∧
      other.parts symbols = (groups ++ first) :: others := by
  induction symbols generalizing reader other with
  | nil => exact ⟨reader.finish, [], rfl, congrArg (· :: []) h.finish⟩
  | cons symbol rest ih =>
      have hstep := h.step symbol
      generalize hreader : reader.step symbol = result at hstep
      generalize hother : other.step symbol = result' at hstep
      cases hstep with
      | none =>
          rw [Reader.parts_of_step_eq_none hreader, Reader.parts_of_step_eq_none hother, h.finish]
          exact ⟨_, _, rfl, rfl⟩
      | some hnext =>
          rw [Reader.parts_of_step_eq_some hreader, Reader.parts_of_step_eq_some hother]
          exact ih hnext

end Preceded

/-- A reading with nothing open that the next item could join reads on as one that starts, with its
groups in front. -/
theorem parts_of_is_settled {level : Level} (h : level.IsSettled) {symbols : List Symbol}
    (hor : symbols.head? ≠ some .orWord) :
    Reader.parts ⟨[], level, 0⟩ symbols =
      Reader.parts ⟨[], Level.start.prepend level.tree, 0⟩ symbols := by
  have hsettle : level.settle = (Level.start.prepend level.tree).settle := by
    rw [Level.settle_of_is_settled h, Level.settle_prepend]
    simp [Level.prepend, Level.start, Level.settle]
  have hfinish : Reader.finish ⟨[], level, 0⟩ =
      Reader.finish ⟨[], Level.start.prepend level.tree, 0⟩ := by
    rw [Reader.finish, Reader.closeAll, Reader.finish, Reader.closeAll, Level.tree_prepend]
    exact (List.append_nil _).symm
  cases symbols with
  | nil => exact congrArg (· :: []) hfinish
  | cons symbol rest =>
      have hstep : Reader.step ⟨[], level, 0⟩ symbol =
          Reader.step ⟨[], Level.start.prepend level.tree, 0⟩ symbol := by
        cases symbol with
        | orWord => exact absurd rfl hor
        | closing => rfl
        | opening negated => rw [Reader.step, Reader.step, hsettle]
        | term text => rw [Reader.step, Reader.step, hsettle]
      cases hnext : Reader.step ⟨[], level, 0⟩ symbol with
      | some next =>
          rw [Reader.parts_of_step_eq_some hnext, Reader.parts_of_step_eq_some (hstep ▸ hnext)]
      | none =>
          rw [Reader.parts_of_step_eq_none hnext, Reader.parts_of_step_eq_none (hstep ▸ hnext), hfinish]

/-- Where a query leaves nothing open, the query that follows is read as on its own: its first part goes on
from the last part of the query before. -/
theorem read_all_append {xs ys : List Symbol} (hopened : (Reader.start.after xs).opened = 0)
    (hlast : xs.getLast? ≠ some .orWord) (hfirst : ys.head? ≠ some .orWord) :
    ∃ before last first others, readAll xs = before ++ [last] ∧ readAll ys = first :: others ∧
      readAll (xs ++ ys) = before ++ (last ++ first) :: others := by
  obtain ⟨level, hsettled, hafter⟩ := Reader.after_eq_of_opened hopened hlast
  have hstart : Preceded level.tree .start ⟨[], Level.start.prepend level.tree, 0⟩ :=
    .outermost .start 0
  obtain ⟨first, others, hys, hpreceded⟩ := hstart.parts ys
  refine ⟨Reader.start.ended xs, level.tree, first, others, ?_, ?_, ?_⟩
  · rw [read_all_eq_parts, Reader.parts, hafter]
    rfl
  · rw [read_all_eq_parts]
    exact hys
  · rw [read_all_eq_parts, Reader.parts_append, hafter, parts_of_is_settled hsettled hfirst,
      hpreceded]

end QueryTree

end CardCatalog
