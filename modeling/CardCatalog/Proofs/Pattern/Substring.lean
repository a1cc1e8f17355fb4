import CardCatalog.Proofs.Pattern.Literal
import Mathlib.Data.List.Infix

/-!
# Escaped patterns search for a part of a text

The escaped pattern of a text, read so that case does not count, matches a text exactly if it holds
the first one as a run of consecutive characters up to simple case folding
(`matches_in_literal_text`): the positions that a pattern of literal characters passes through are the
positions of a prefix, and a search starts at every suffix.
-/

namespace CardCatalog.Text

/-- The text holds the part as a run of consecutive characters, up to simple case folding. -/
def ContainsFolded (part text : String) : Prop :=
  part.toList.map foldChar <:+: text.toList.map foldChar

instance (part text : String) : Decidable (ContainsFolded part text) :=
  inferInstanceAs (Decidable (_ <:+: _))

/-- What stands after the positions of a text are the suffixes of the text. -/
theorem Cursor.map_rest_following (index : Nat) (before : Option Char) (cs : List Char) :
    (following index before cs).map Cursor.rest = cs.tails := by
  induction cs generalizing index before with
  | nil => rfl
  | cons c cs ih => rw [following, List.map_cons, ih, List.tails_cons]

/-- A character is passed, case not counting, where the text goes on with one that folds alike. -/
theorem Cursor.step_folded_iff (c : Char) (part : List Char) (cursor : Cursor) :
    (∃ next, cursor.step? (.one c true) = some next ∧ part <+: next.rest.map foldChar) ↔
      foldChar c :: part <+: cursor.rest.map foldChar := by
  obtain ⟨index, before, rest⟩ := cursor
  cases rest with
  | nil => simp [step?]
  | cons d rest =>
      by_cases hfold : foldChar d = foldChar c
      · simp [step?, CharSet.contains, hfold]
      · simp [step?, CharSet.contains, hfold, Ne.symm hfold]

namespace Pattern

/-- A sequence of patterns goes on from where its first pattern ends. -/
theorem advance_concat_cons (first : Pattern) (others : List Pattern) (cursors : List Cursor) :
    (concat (first :: others)).advance cursors = (concat others).advance (first.advance cursors) := by
  cases others with
  | nil => rfl
  | cons second others => rfl

/-- A pattern of literal characters gets to an end from the positions where the text goes on with
these characters, up to case. -/
theorem advance_literal_text_ne_nil_iff (cs : List Char) (cursors : List Cursor) :
    (literalText ⟨true, false, false⟩ cs).advance cursors ≠ [] ↔
      ∃ cursor ∈ cursors, cs.map foldChar <+: cursor.rest.map foldChar := by
  induction cs generalizing cursors with
  | nil =>
      have hends : (literalText ⟨true, false, false⟩ []).advance cursors = cursors := rfl
      simp [hends, List.eq_nil_iff_forall_not_mem]
  | cons c cs ih =>
      have hadvance : (literalText ⟨true, false, false⟩ (c :: cs)).advance cursors =
          (literalText ⟨true, false, false⟩ cs).advance
            (cursors.filterMap (·.step? (.one c true))) :=
        advance_concat_cons _ _ cursors
      rw [hadvance, ih, List.map_cons]
      constructor
      · rintro ⟨next, hnext, hprefix⟩
        obtain ⟨cursor, hcursor, hstep⟩ := List.mem_filterMap.1 hnext
        exact ⟨cursor, hcursor, (Cursor.step_folded_iff c _ cursor).1 ⟨next, hstep, hprefix⟩⟩
      · rintro ⟨cursor, hcursor, hprefix⟩
        obtain ⟨next, hstep, hrest⟩ := (Cursor.step_folded_iff c _ cursor).2 hprefix
        exact ⟨next, List.mem_filterMap.2 ⟨cursor, hcursor, hstep⟩, hrest⟩

/-- A pattern of literal characters matches in the texts that hold these characters one after the
other, up to case. -/
theorem matches_in_literal_text (part text : String) :
    (literalText ⟨true, false, false⟩ part.toList).matchesIn text = true ↔
      ContainsFolded part text := by
  have hempty (cursors : List Cursor) : (!cursors.isEmpty) = true ↔ cursors ≠ [] := by
    cases cursors <;> simp
  rw [matchesIn, hempty, advance_literal_text_ne_nil_iff, ContainsFolded,
    List.infix_iff_prefix_suffix]
  constructor
  · rintro ⟨cursor, hcursor, hprefix⟩
    have hsuffix : cursor.rest <:+ text.toList := by
      rw [← List.mem_tails, ← Cursor.map_rest_following 0 none]
      exact List.mem_map_of_mem hcursor
    exact ⟨_, hprefix, hsuffix.map foldChar⟩
  · rintro ⟨folded, hprefix, hsuffix⟩
    obtain ⟨rest, hrest, rfl⟩ := List.suffix_map_iff.1 hsuffix
    rw [← List.mem_tails, ← Cursor.map_rest_following 0 none] at hrest
    obtain ⟨cursor, hcursor, rfl⟩ := List.mem_map.1 hrest
    exact ⟨cursor, hcursor, hprefix⟩

end Pattern
end CardCatalog.Text
