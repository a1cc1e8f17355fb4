import CardCatalog.Proofs.Text.Scan
import CardCatalog.Text.WhiteSpace
import Mathlib.Data.List.DropRight

/-!
# White space at the ends of a text

`IsTrimmed` says what a text is without the white space at its ends, and not how it is found: there is
white space on both sides of it and none at its own ends. There is one such part of each text, and it is
the one that trimming leaves (`trim_eq_iff`). What trimming does to texts of a known form is read off it.
-/

namespace CardCatalog.Text

/-- There is nothing but white space in a text. -/
def IsBlank (cs : List Char) : Prop :=
  ∀ c ∈ cs, isWhiteSpace c = true

instance (cs : List Char) : Decidable (IsBlank cs) :=
  decidable_of_iff (cs.all isWhiteSpace = true) List.all_eq_true

/-- A text without the white space at its ends. -/
structure IsTrimmed (cs inner : List Char) : Prop where
  around : ∃ before after, IsBlank before ∧ IsBlank after ∧ cs = before ++ inner ++ after
  starts_filled : ∀ c ∈ inner.head?, isWhiteSpace c = false
  ends_filled : ∀ c ∈ inner.getLast?, isWhiteSpace c = false

/-- What is left after the front has been dropped does not start with what was dropped. -/
theorem head_drop_while {p : Char → Bool} {cs : List Char} : ∀ c ∈ (cs.dropWhile p).head?, p c = false := by
  intro c hc
  have hnot := List.head?_dropWhile_not p cs
  rw [Option.mem_def.1 hc] at hnot
  exact hnot

/-- Trimming removes no more and no less than the white space at the ends. -/
theorem is_trimmed_trim (cs : List Char) : IsTrimmed cs (trim cs) := by
  have htrim : trim cs = (cs.dropWhile isWhiteSpace).rdropWhile isWhiteSpace := rfl
  refine ⟨⟨cs.takeWhile isWhiteSpace, (cs.dropWhile isWhiteSpace).rtakeWhile isWhiteSpace,
    fun _ => List.mem_takeWhile_imp, fun _ => List.mem_rtakeWhile_imp, ?_⟩, ?_, ?_⟩
  · rw [htrim, List.append_assoc, List.rdropWhile_append_rtakeWhile, List.takeWhile_append_dropWhile]
  · -- What is removed at the end does not change the first character.
    intro c hc
    obtain ⟨after, hafter⟩ := List.rdropWhile_prefix isWhiteSpace (l := cs.dropWhile isWhiteSpace)
    have hhead : (cs.dropWhile isWhiteSpace).head? = some c := by
      rw [← hafter, ← htrim, List.head?_append, Option.mem_def.1 hc]
      rfl
    exact head_drop_while c hhead
  · intro c hc
    rw [trim, List.getLast?_reverse] at hc
    exact head_drop_while c hc

/-- A text has one part at most that is it without the white space at its ends. -/
theorem IsTrimmed.trim_eq {cs inner : List Char} (h : IsTrimmed cs inner) : trim cs = inner := by
  obtain ⟨before, after, hbefore, hafter, rfl⟩ := h.around
  cases inner with
  | nil =>
      have hblank : (before ++ [] ++ after).dropWhile isWhiteSpace = [] := by
        rw [List.append_nil, List.dropWhile_eq_nil_iff, List.forall_mem_append]
        exact ⟨hbefore, hafter⟩
      rw [trim, hblank]
      rfl
  | cons c inner =>
      have hfront : (before ++ c :: inner ++ after).dropWhile isWhiteSpace = c :: inner ++ after := by
        rw [List.append_assoc]
        exact drop_while_append_of_all hbefore h.starts_filled
      have hback : (c :: inner ++ after).reverse.dropWhile isWhiteSpace = (c :: inner).reverse := by
        rw [List.reverse_append]
        refine drop_while_append_of_all (fun d hd => hafter d (List.mem_reverse.1 hd)) ?_
        rw [List.head?_reverse]
        exact h.ends_filled
      rw [trim, hfront, hback, List.reverse_reverse]

/-- Trimming a text leaves it without the white space at its ends. -/
theorem trim_eq_iff {cs inner : List Char} : trim cs = inner ↔ IsTrimmed cs inner := by
  constructor
  · rintro rfl
    exact is_trimmed_trim cs
  · exact IsTrimmed.trim_eq

/-- There is nothing to remove at the ends of a text without white space. -/
theorem trim_eq_self {cs : List Char} (h : ∀ c ∈ cs, isWhiteSpace c = false) : trim cs = cs := by
  refine trim_eq_iff.2 ⟨⟨[], [], by simp [IsBlank], by simp [IsBlank], by simp⟩, ?_, ?_⟩
  · exact fun c hc => h c (List.mem_of_head? hc)
  · exact fun c hc => h c (List.mem_of_getLast? hc)

/-- What is no white space at the front of a text is not removed, nor what stands before it. -/
theorem trim_append {front : List Char} (hfront : ∀ c ∈ front, isWhiteSpace c = false)
    (hfilled : front ≠ []) (cs : List Char) :
    trim (front ++ cs) = front ++ cs.rdropWhile isWhiteSpace := by
  refine trim_eq_iff.2 ⟨⟨[], cs.rtakeWhile isWhiteSpace, by simp [IsBlank],
    fun _ => List.mem_rtakeWhile_imp, ?_⟩, ?_, ?_⟩
  · rw [List.nil_append, List.append_assoc, List.rdropWhile_append_rtakeWhile]
  · intro c hc
    rw [List.head?_append_of_ne_nil _ hfilled] at hc
    exact hfront c (List.mem_of_head? hc)
  · intro c hc
    by_cases hblank : cs.rdropWhile isWhiteSpace = []
    · rw [hblank, List.append_nil] at hc
      exact hfront c (List.mem_of_getLast? hc)
    · rw [List.getLast?_append_of_ne_nil _ hblank, List.rdropWhile, List.getLast?_reverse] at hc
      exact head_drop_while c hc

/-- White space at the end makes no difference to what is left without white space at the ends. -/
theorem trim_drop_end (cs : List Char) : trim (cs.rdropWhile isWhiteSpace) = trim cs := by
  have h := is_trimmed_trim (cs.rdropWhile isWhiteSpace)
  obtain ⟨before, after, hbefore, hafter, hcs⟩ := h.around
  refine (trim_eq_iff.2 ⟨⟨before, after ++ cs.rtakeWhile isWhiteSpace, hbefore, ?_, ?_⟩,
    h.starts_filled, h.ends_filled⟩).symm
  · exact List.forall_mem_append.2 ⟨hafter, fun _ => List.mem_rtakeWhile_imp⟩
  · rw [← List.append_assoc, ← hcs, List.rdropWhile_append_rtakeWhile]

/-- Trimming a text leaves a part of it. -/
theorem infix_of_trim (cs : List Char) : trim cs <:+: cs := by
  obtain ⟨before, after, _, _, hcs⟩ := (is_trimmed_trim cs).around
  exact ⟨before, after, hcs.symm⟩

end CardCatalog.Text
