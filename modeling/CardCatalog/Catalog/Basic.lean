import CardCatalog.Catalog.Evaluate
import CardCatalog.Catalog.SortOrder

/-!
# The catalog

A catalog is a list of stored cards, no two of them with the same id. Putting a card in removes the
card that had its id, so the last one written wins. A search keeps the cards that a predicate
selects, orders them, and takes as many as the limit allows.
-/

namespace CardCatalog

/-- Stored cards with distinct ids, in the order in which they were written. -/
structure Catalog where
  rows : List Row
  nodup_ids : (rows.map Row.id).Nodup

namespace Catalog

/-- The catalog without cards. -/
def empty : Catalog :=
  ⟨[], List.nodup_nil⟩

/-- Write a card, in place of the one with its id. -/
def put (catalog : Catalog) (row : Row) : Catalog where
  rows := catalog.rows.filter (fun other => other.id != row.id) ++ [row]
  nodup_ids := by
    have kept : ((catalog.rows.filter fun other => other.id != row.id).map Row.id).Nodup :=
      catalog.nodup_ids.sublist (List.filter_sublist.map Row.id)
    rw [List.map_append, List.nodup_append]
    refine ⟨kept, by simp, ?_⟩
    intro id hid other hother
    simp only [List.map_cons, List.map_nil, List.mem_singleton] at hother
    obtain ⟨found, hfound, rfl⟩ := List.mem_map.1 hid
    simpa [hother] using (List.mem_filter.1 hfound).2

/-- Write cards one after the other. -/
def putAll (catalog : Catalog) (rows : List Row) : Catalog :=
  rows.foldl put catalog

/-- Import card records, or fail without any change when one of them cannot be stored. -/
def import? (catalog : Catalog) (cards : List CardRecord) : Option Catalog := do
  some (catalog.putAll (← cards.mapM Row.ofRecord?))

/-- The number of cards. -/
def size (catalog : Catalog) : Nat :=
  catalog.rows.length

/-- The card whose id has exactly this text. -/
def find? (catalog : Catalog) (id : String) : Option Row :=
  catalog.rows.find? fun row => row.id.text == id

/-- The greatest limit that a search accepts. -/
def maxLimit : Nat :=
  0x7FFFFFFFFFFFFFFF

/-- A search can be carried out: the condition is executable and has a value for every card, and
the limit is accepted. -/
def admits (catalog : Catalog) (predicate : Predicate) (limit : Option Nat) : Bool :=
  predicate.isExecutable &&
    catalog.rows.all (fun row => !predicate.constraints.any (Constraint.overflows row)) &&
    limit.all (· ≤ maxLimit)

/-- The selected cards in order. -/
def hits (catalog : Catalog) (predicate : Predicate) (order : SortOrder) : List Row :=
  (catalog.rows.filter predicate.selects).mergeSort order.le

/-- The summaries of the selected cards in order, as many as the limit allows. Without a limit the
search yields all of them. -/
def search? (catalog : Catalog) (predicate : Predicate) (order : SortOrder) (limit : Option Nat) :
    Option (List Summary) :=
  if catalog.admits predicate limit then
    let found := (catalog.hits predicate order).map Row.summary
    some (limit.elim found found.take)
  else none

end Catalog

end CardCatalog
