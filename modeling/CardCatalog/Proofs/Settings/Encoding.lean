import CardCatalog.Proofs.Toml.Document
import CardCatalog.Settings.Encoding

/-!
# Settings read back from their file

The text of a settings file is a document of four assignments, and all settings that have one are read
back from it (`parse_text`). Settings have none exactly if their root is not in UTF-8 or their limit is
beyond the signed 64-bit integers (`text_eq_none_iff`, `is_writable_iff`).
-/

namespace CardCatalog

open CardCatalog.Number CardCatalog.Toml

/-- An order is read back from its name. -/
theorem SortOrder.of_label_label (order : SortOrder) : ofLabel? order.label = some order := by
  cases order <;> decide

namespace Settings

/-- The settings whose root has a text and whose limit is a signed 64-bit integer. -/
def IsWritable (settings : Settings) : Prop :=
  settings.root.isText = true ∧ settings.defaultLimit.toNat ≤ maxWrittenLimit

instance (settings : Settings) : Decidable settings.IsWritable :=
  inferInstanceAs (Decidable (_ ∧ _))

/-- Settings can be written exactly if a text spells their root and their limit is below the bound of
the signed 64-bit integers. -/
theorem is_writable_iff (settings : Settings) :
    settings.IsWritable ↔
      (∃ root : String, settings.root = .ofText root) ∧ settings.defaultLimit.toNat < 2 ^ 63 := by
  rw [IsWritable, Path.is_text_iff, maxWrittenLimit]
  refine and_congr_right fun _ => ?_
  omega

/-- The initial settings of a root that a text spells can be written. -/
theorem is_writable_initial (root : String) : (initial root).IsWritable :=
  have hlimit : initialLimit.toNat ≤ maxWrittenLimit := by decide
  ⟨Path.is_text_iff.2 ⟨root, rfl⟩, hlimit⟩

/-- Settings cannot be written exactly if no text spells their root or their limit is too large. -/
theorem not_is_writable_iff (settings : Settings) :
    ¬ settings.IsWritable ↔
      (∀ root : String, settings.root ≠ .ofText root) ∨ 2 ^ 63 ≤ settings.defaultLimit.toNat := by
  rw [is_writable_iff, not_and_or, not_exists, not_lt]

/-- Settings have a text exactly if they can be written. -/
theorem text_eq_none_iff (settings : Settings) : settings.text? = none ↔ ¬ settings.IsWritable := by
  unfold text? IsWritable Path.isText
  cases settings.root.text? <;> simp

/-- Settings that can be written have a text. -/
theorem IsWritable.exists_text {settings : Settings} (h : settings.IsWritable) :
    ∃ content, settings.text? = some content :=
  Option.ne_none_iff_exists'.1 fun hnone => settings.text_eq_none_iff.1 hnone h

/-- The assignments of a settings file. -/
def assignments (settings : Settings) (root : String)
    (h : settings.defaultLimit.toNat ≤ maxWrittenLimit) : List Assignment :=
  [⟨"scry_root", .text root, writeText root, by decide,
      List.all_eq_true.mp (by decide), is_line_of_text root⟩,
    ⟨"default_limit", .integer settings.defaultLimit.toNat, natText settings.defaultLimit.toNat,
      by decide, List.all_eq_true.mp (by decide), is_line_of_number h⟩,
    ⟨"include_extras", .bool settings.includeExtras, boolText settings.includeExtras, by decide,
      List.all_eq_true.mp (by decide), is_line_of_bool settings.includeExtras⟩,
    ⟨"order_by", .text settings.order.label, writeText settings.order.label, by decide,
      List.all_eq_true.mp (by decide), is_line_of_text settings.order.label⟩]

section

variable (settings : Settings) (root : String)
  (h : settings.defaultLimit.toNat ≤ maxWrittenLimit)

/-- The text of a settings file is the document of its assignments. -/
theorem text_eq_document :
    settings.textUnder root = String.ofList (documentChars (settings.assignments root h)) := by
  have hchars : documentChars (settings.assignments root h) =
      lineChars "scry_root" (writeText root) ++
        (lineChars "default_limit" (natText settings.defaultLimit.toNat) ++
          (lineChars "include_extras" (boolText settings.includeExtras) ++
            (lineChars "order_by" (writeText settings.order.label) ++ []))) := rfl
  rw [← String.toList_inj, String.toList_ofList, hchars]
  unfold textUnder
  generalize writeText root = root, natText settings.defaultLimit.toNat = limit,
    boolText settings.includeExtras = extras, writeText settings.order.label = order
  simp [lineChars]

/-- Settings are read back from the table of their entries. -/
theorem of_toml_entries :
    ofToml? (.table ((settings.assignments root h).map Assignment.entry)) =
      some { settings with root := root } := by
  have hlimit : entryOr ((settings.assignments root h).map Assignment.entry) "default_limit"
      limitOfToml? initialLimit = some settings.defaultLimit := by
    have hvalue : limitOfToml? (.integer settings.defaultLimit.toNat) = some settings.defaultLimit := by
      simp [limitOfToml?]
    exact hvalue
  have hextras : entryOr ((settings.assignments root h).map Assignment.entry) "include_extras"
      boolOfToml? false = some settings.includeExtras := rfl
  have horder : entryOr ((settings.assignments root h).map Assignment.entry) "order_by"
      SortOrder.ofToml? .name = some settings.order := settings.order.of_label_label
  have hroot : entry? ((settings.assignments root h).map Assignment.entry) "scry_root" =
      some (.text root) := rfl
  rw [ofToml?]
  simp only [hroot, hlimit, hextras, horder, textOfToml?, Option.bind_eq_bind, Option.bind_some]

end

/-- Settings that can be written are read back from their text. -/
theorem parse_text {settings : Settings} {content : String} (h : settings.text? = some content) :
    parse? content = some settings := by
  obtain ⟨root, hroot, htext⟩ := Option.bind_eq_some_iff.1 h
  obtain ⟨hlimit, rfl⟩ : settings.defaultLimit.toNat ≤ maxWrittenLimit ∧
      settings.textUnder root = content := by simpa using htext
  have hkeys : ((settings.assignments root hlimit).map Assignment.key).Nodup := by
    simp [assignments]
  have hsame : { settings with root := Path.ofText root } = settings := by
    rw [← Path.text_eq_some_iff.1 hroot]
  rw [parse?, text_eq_document settings root hlimit, parse_document hkeys]
  exact (of_toml_entries settings root hlimit).trans (congrArg some hsame)

end Settings

end CardCatalog
