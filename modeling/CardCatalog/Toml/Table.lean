import CardCatalog.Toml.Basic

/-!
# Tables under construction

A document builds its tables piece by piece. A table comes into being by a header of its own, by the
header of a table inside it, or by a dotted key; which of these it was decides what may still be
added. No key is given twice, a table has one header, and neither a value nor a table with a header
of its own is extended by dotted keys.
-/

namespace CardCatalog.Toml

/-- How a table came into being: by its own header, by the header of a table inside it, or by a
dotted key. -/
inductive TableOrigin where
  | header
  | innerHeader
  | dottedKey
deriving DecidableEq

/-- What stands under a key of a table under construction: a finished value, a table, or the tables
of an array of tables. -/
inductive Slot where
  | value (value : Toml)
  | table (origin : TableOrigin) (slots : List (String × Slot))
  | tables (items : List (List (String × Slot)))

/-- A table under construction. -/
abbrev Slots := List (String × Slot)

namespace Slot

mutual

/-- The value that a slot holds. -/
def toToml : Slot → Toml
  | .value v => v
  | .table _ slots => .table (entriesOf slots)
  | .tables items => .array (tablesOf items)

/-- The entries of a table. -/
def entriesOf : List (String × Slot) → List (String × Toml)
  | [] => []
  | (key, slot) :: slots => (key, slot.toToml) :: entriesOf slots

/-- The tables of an array of tables. -/
def tablesOf : List (List (String × Slot)) → List Toml
  | [] => []
  | slots :: items => .table (entriesOf slots) :: tablesOf items

end

end Slot

namespace Slots

/-- What stands under a key. -/
def find? (slots : Slots) (key : String) : Option Slot :=
  slots.lookup key

/-- Put a slot under a key, in place of the one that stands there. -/
def set (slots : Slots) (key : String) (slot : Slot) : Slots :=
  slots.filter (fun other => other.1 != key) ++ [(key, slot)]

/-- Give a value to a dotted key. The flag tells whether the table takes the last part of the key:
the table of a section does, and so does a table that a dotted key has made. -/
def assign (open? : Bool) (slots : Slots) (value : Toml) : List String → Option Slots
  | [] => none
  | [key] =>
      if open? && (slots.find? key).isNone then some (slots.set key (.value value)) else none
  | key :: rest =>
      match slots.find? key with
      | none => do some (slots.set key (.table .dottedKey (← assign true [] value rest)))
      | some (.table .header _) => none
      | some (.table origin inner) => do
          some (slots.set key (.table origin (← assign (origin == .dottedKey) inner value rest)))
      | some (.tables items) =>
          match items.getLast? with
          | some last => do
              some (slots.set key (.tables (items.dropLast ++ [← assign false last value rest])))
          | none => none
      | some (.value _) => none

/-- Give values to dotted keys, one after the other. -/
def assignAll (slots : Slots) : List (List String × Toml) → Option Slots
  | [] => some slots
  | (path, value) :: rest => do assignAll (← assign true slots value path) rest

/-- The table with its own header at the place where `found` stands: a new one, or one that a header
inside it has announced. -/
def openTable (found : Option Slot) (pairs : List (List String × Toml)) : Option Slot :=
  match found with
  | none => (assignAll [] pairs).map (.table .header)
  | some (.table .innerHeader inner) => (assignAll inner pairs).map (.table .header)
  | some _ => none

/-- The array of tables at the place where `found` stands, with one more table. -/
def openItem (found : Option Slot) (pairs : List (List String × Toml)) : Option Slot :=
  match found with
  | none => (assignAll [] pairs).map fun slots => .tables [slots]
  | some (.tables items) => (assignAll [] pairs).map fun slots => .tables (items ++ [slots])
  | some _ => none

/-- Change what stands at a path of headers. Missing tables on the way come into being; of an array
of tables the last one is meant. -/
def updateAt (change : Option Slot → Option Slot) (slots : Slots) : List String → Option Slots
  | [] => none
  | [key] => do some (slots.set key (← change (slots.find? key)))
  | key :: rest =>
      match slots.find? key with
      | none => do some (slots.set key (.table .innerHeader (← updateAt change [] rest)))
      | some (.table origin inner) => do
          some (slots.set key (.table origin (← updateAt change inner rest)))
      | some (.tables items) =>
          match items.getLast? with
          | some last => do
              some (slots.set key (.tables (items.dropLast ++ [← updateAt change last rest])))
          | none => none
      | some (.value _) => none

/-- The table that has been built. -/
def toToml (slots : Slots) : Toml :=
  .table (Slot.entriesOf slots)

end Slots

end CardCatalog.Toml
