import CardCatalog.Number.Decimal
import CardCatalog.Settings.Basic
import CardCatalog.Toml.Reader

/-!
# Settings as TOML

A settings file is a TOML document with one entry a setting. The root has to be named; the other
settings have initial values, and further entries are passed over. Texts in TOML are in UTF-8, and
integers have 64 bits and a sign, so a root without a text cannot be written, nor can a limit beyond
the range of the integers.
-/

namespace CardCatalog

open CardCatalog.Number

namespace SortOrder

/-- Read an order: its name, or a table whose only key is the name, with nothing under it. -/
def ofToml? : Toml → Option SortOrder
  | .text s => ofLabel? s
  | .table [(key, .table [])] => ofLabel? key
  | .table [(key, .array [])] => ofLabel? key
  | _ => none

end SortOrder

namespace Settings

/-- Read a limit. -/
def limitOfToml? : Toml → Option UInt64
  | .integer n => if 0 ≤ n then some (UInt64.ofNat n.toNat) else none
  | _ => none

/-- Read a truth value. -/
def boolOfToml? : Toml → Option Bool
  | .bool b => some b
  | _ => none

/-- Read a text. -/
def textOfToml? : Toml → Option String
  | .text s => some s
  | _ => none

/-- Read the entry under a key, or take the initial value where there is none. -/
def entryOr {α : Type} (entries : List (String × Toml)) (key : String) (read : Toml → Option α)
    (absent : α) : Option α :=
  match Toml.entry? entries key with
  | some value => read value
  | none => some absent

/-- Read settings. -/
def ofToml? : Toml → Option Settings
  | .table entries => do
      let root ← textOfToml? (← Toml.entry? entries "scry_root")
      let defaultLimit ← entryOr entries "default_limit" limitOfToml? initialLimit
      let includeExtras ← entryOr entries "include_extras" boolOfToml? false
      let order ← entryOr entries "order_by" SortOrder.ofToml? .name
      some { root := .ofText root, defaultLimit, includeExtras, order }
  | _ => none

/-- Read the text of a settings file. -/
def parse? (s : String) : Option Settings := do
  ofToml? (← Toml.parse? s)

/-- The greatest limit that can be written. -/
def maxWrittenLimit : Nat :=
  0x7FFFFFFFFFFFFFFF

/-- A truth value in a settings file. -/
def boolText (b : Bool) : String :=
  if b then "true" else "false"

/-- The text of a settings file for a root with this text. -/
def textUnder (settings : Settings) (root : String) : String :=
  "scry_root = " ++ Toml.writeText root ++ "\n" ++
    "default_limit = " ++ natText settings.defaultLimit.toNat ++ "\n" ++
    "include_extras = " ++ boolText settings.includeExtras ++ "\n" ++
    "order_by = " ++ Toml.writeText settings.order.label ++ "\n"

/-- The text of a settings file, if the root and the limit can be written. -/
def text? (settings : Settings) : Option String := do
  let root ← settings.root.text?
  if settings.defaultLimit.toNat ≤ maxWrittenLimit then some (settings.textUnder root) else none

end Settings

end CardCatalog
