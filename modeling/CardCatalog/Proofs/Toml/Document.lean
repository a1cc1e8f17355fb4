import CardCatalog.Proofs.Toml.Text
import Mathlib.Data.List.Nodup

/-!
# TOML documents of assignments

An `Assignment` is a bare key with a text of its value. A document with one assignment a line, and no key
twice, is read as the table of the keys and values (`parse_document`).
-/

namespace CardCatalog.Toml

open CardCatalog.Text CardCatalog.Number

/-! ## Values on a line -/

/-- The text is read as the value if a line break stands behind it, and no space is skipped before it. -/
structure IsLineOf (value : Toml) (text : String) : Prop where
  head_not_blank : ∀ c ∈ text.toList.head?, isBlank c = false
  read : ∀ rest, readValue (nestingLimit - 1) (text.toList ++ '\n' :: rest) = some (value, '\n' :: rest)

/-- What is no array and no table is read as a plain value. -/
theorem read_value_of_plain {cs : List Char} (hlist : cs.head? ≠ some '[') (htable : cs.head? ≠ some '\x7b') :
    readValue (nestingLimit - 1) cs = readPlain cs := by
  have hdepth : nestingLimit - 1 = 78 + 1 := rfl
  rw [hdepth, readValue, if_neg (by simpa using hlist), if_neg (by simpa using htable)]

/-- A text that is written stands for itself on a line. -/
theorem is_line_of_text (s : String) : IsLineOf (.text s) (writeText s) where
  head_not_blank c hc := by
    rw [writeText, String.toList_ofList] at hc
    obtain rfl : '\x22' = c := Option.some.inj hc
    rfl
  read rest := by
    have hcons := write_text_append s ('\n' :: rest)
    have hread : readAnyText ((writeText s).toList ++ '\n' :: rest) = some (s, '\n' :: rest) :=
      read_any_text_write s (by simp)
    rw [read_value_of_plain (by simp [hcons]) (by simp [hcons]), readPlain, hread, hcons]
    rfl

/-- A truth value stands for itself on a line. -/
theorem is_line_of_bool (b : Bool) : IsLineOf (.bool b) (if b then "true" else "false") where
  head_not_blank c hc := by
    cases b
    · obtain rfl : 'f' = c := Option.some.inj hc
      rfl
    · obtain rfl : 't' = c := Option.some.inj hc
      rfl
  read rest := by
    cases b <;> rfl

/-- Digits on a line are no array, no table, no text and no truth value. -/
theorem DigitsLine.read_value {cs : List Char} (h : DigitsLine cs) :
    readValue (nestingLimit - 1) cs = readNumber cs := by
  have htrue : readWord "true" cs = none :=
    read_word_eq_none (by decide) (h.head_ne (by decide) (by decide))
  have hfalse : readWord "false" cs = none :=
    read_word_eq_none (by decide) (h.head_ne (by decide) (by decide))
  have hquote : (cs.head? == some '\x22' || cs.head? == some '\x27') = false := by
    simp only [Bool.or_eq_false_iff, beq_eq_false_iff_ne]
    exact ⟨h.head_ne (by decide) (by decide), h.head_ne (by decide) (by decide)⟩
  rw [read_value_of_plain (h.head_ne (by decide) (by decide)) (h.head_ne (by decide) (by decide)), readPlain,
    hquote, htrue, hfalse]
  rfl

/-- The decimal text of a 64-bit number stands for the number on a line. -/
theorem is_line_of_number {n : Nat} (h : n ≤ 0x7FFFFFFFFFFFFFFF) :
    IsLineOf (.integer n) (natText n) where
  head_not_blank c hc := by
    rw [natText, String.toList_ofList] at hc
    have hdigit := is_ascii_digit_of_mem_nat_digits c (List.mem_of_mem_head? hc)
    rw [isBlank, Bool.or_eq_false_iff, beq_eq_false_iff_ne, beq_eq_false_iff_ne]
    constructor <;>
      · rintro rfl
        exact absurd hdigit (by decide)
  read rest := by
    have hline : DigitsLine (natDigits n ++ '\n' :: rest) :=
      ⟨natDigits n, rest, is_ascii_digit_of_mem_nat_digits, rfl⟩
    rw [natText, String.toList_ofList, hline.read_value]
    exact read_number_digits h rest

/-! ## Lines -/

/-- The characters of a line that gives a key the value with a text. -/
def lineChars (key text : String) : List Char :=
  key.toList ++ ' ' :: '=' :: ' ' :: (text.toList ++ ['\n'])

/-- A bare key with a text of its value. -/
structure Assignment where
  key : String
  value : Toml
  text : String
  key_ne : key ≠ ""
  bare_key : ∀ c ∈ key.toList, isBareKeyChar c = true
  is_line_of : IsLineOf value text

/-- A character of a bare key is none that may not stand there. -/
theorem ne_of_bare {c d : Char} (hc : isBareKeyChar c = true) (hd : isBareKeyChar d = false) : c ≠ d := by
  rintro rfl
  exact absurd hc (by simp [hd])

namespace Assignment

variable (assignment : Assignment)

/-- The line of the assignment. -/
def line : List Char :=
  lineChars assignment.key assignment.text

/-- What the line says. -/
def said : Line :=
  .pair [assignment.key] assignment.value

/-- The entry of the table. -/
def entry : String × Toml :=
  (assignment.key, assignment.value)

/-- A line is the key, an equals sign with a blank on each side, the text of the value, and a line
break. -/
theorem line_append (rest : List Char) : assignment.line ++ rest =
    assignment.key.toList ++ ' ' :: '=' :: ' ' :: (assignment.text.toList ++ '\n' :: rest) := by
  simp [line, lineChars]

/-- The first character of a line belongs to the key. -/
theorem exists_line_eq_cons (rest : List Char) :
    ∃ c cs, assignment.line ++ rest = c :: cs ∧ isBareKeyChar c = true := by
  obtain ⟨c, cs, hcons⟩ := List.exists_cons_of_ne_nil
    (fun hnil => assignment.key_ne (String.toList_eq_nil_iff.1 hnil) : assignment.key.toList ≠ [])
  refine ⟨c, cs ++ ' ' :: '=' :: ' ' :: (assignment.text.toList ++ '\n' :: rest), ?_,
    assignment.bare_key c (hcons ▸ List.mem_cons_self)⟩
  rw [line_append, hcons, List.cons_append]

/-- No space is skipped before a line. -/
theorem skip_blanks_line (rest : List Char) :
    skipBlanks (assignment.line ++ rest) = assignment.line ++ rest := by
  obtain ⟨c, cs, hcons, hbare⟩ := assignment.exists_line_eq_cons rest
  have hblank : isBlank c = false := by
    rw [isBlank, Bool.or_eq_false_iff, beq_eq_false_iff_ne, beq_eq_false_iff_ne]
    exact ⟨ne_of_bare hbare (by decide), ne_of_bare hbare (by decide)⟩
  rw [hcons]
  exact List.dropWhile_cons_of_neg (by simp [hblank])

/-- The key of a line is read. -/
theorem read_path_line (rest : List Char) :
    readPath (assignment.line ++ rest) =
      some ([assignment.key], '=' :: ' ' :: (assignment.text.toList ++ '\n' :: rest)) := by
  have hdepth : nestingLimit - 1 = 78 + 1 := rfl
  have hkey : readKey (assignment.line ++ rest) =
      some (assignment.key, ' ' :: '=' :: ' ' :: (assignment.text.toList ++ '\n' :: rest)) := by
    have hblank : ∀ c ∈ (' ' :: '=' :: ' ' :: (assignment.text.toList ++ '\n' :: rest)).head?,
        isBareKeyChar c = false := by
      intro c hc
      obtain rfl : ' ' = c := Option.some.inj hc
      rfl
    have hfilled : assignment.key.toList.isEmpty = false := by
      simpa using assignment.key_ne
    rw [line_append, readKey]
    simp only [take_while_append_of_all assignment.bare_key hblank,
      drop_while_append_of_all assignment.bare_key hblank, hfilled, String.ofList_toList]
    rfl
  rw [readPath, hdepth, readKeyParts, skip_blanks_line, hkey]
  rfl

/-- The blank before a value is skipped, and nothing of the value. -/
theorem skip_blanks_value (rest : List Char) :
    skipBlanks (' ' :: (assignment.text.toList ++ '\n' :: rest)) =
      assignment.text.toList ++ '\n' :: rest := by
  have hhead : ∀ c ∈ (assignment.text.toList ++ '\n' :: rest).head?, isBlank c = false := by
    have hblank := assignment.is_line_of.head_not_blank
    cases htext : assignment.text.toList with
    | nil =>
        intro c hc
        obtain rfl : '\n' = c := Option.some.inj hc
        rfl
    | cons d ds =>
        rw [htext] at hblank
        exact hblank
  rw [← List.singleton_append]
  exact drop_while_append_of_all (by simp [isBlank]) hhead

/-- The key and the value of a line are read, up to the line break. -/
theorem read_pair_line (rest : List Char) :
    readPair (readValue (nestingLimit - 1)) (assignment.line ++ rest) =
      some (([assignment.key], assignment.value), '\n' :: rest) := by
  have hbreak : skipBlanks ('\n' :: rest) = '\n' :: rest := rfl
  rw [readPair, read_path_line]
  simp [skip_blanks_value, assignment.is_line_of.read, hbreak]

/-- A line is read as its assignment, up to the line break. -/
theorem read_line_line (rest : List Char) :
    readLine (assignment.line ++ rest) = some (assignment.said, '\n' :: rest) := by
  have hpair := assignment.read_pair_line rest
  obtain ⟨c, cs, hcons, hbare⟩ := assignment.exists_line_eq_cons rest
  have hbracket : c ≠ '[' := ne_of_bare hbare (by decide)
  rw [hcons] at hpair ⊢
  unfold readLine
  split
  · rename_i h
    exact absurd (List.cons.inj h).1 hbracket
  · rename_i h
    exact absurd (List.cons.inj h).1 hbracket
  · simp [hpair, said]

end Assignment

/-! ## Documents -/

/-- The characters of a document of assignments. -/
def documentChars (assignments : List Assignment) : List Char :=
  assignments.flatMap Assignment.line

/-- Lines are read one by one up to the end of the document. -/
theorem read_document_lines (assignments : List Assignment) {fuel : Nat} (hfuel : assignments.length < fuel) :
    readDocumentLines fuel (documentChars assignments) = some (assignments.map Assignment.said) := by
  induction assignments generalizing fuel with
  | nil =>
      obtain ⟨fuel, rfl⟩ := Nat.exists_eq_add_of_lt hfuel
      simp [documentChars, readDocumentLines, skipBlanks]
  | cons assignment assignments ih =>
      obtain ⟨fuel, rfl⟩ := Nat.exists_eq_add_one_of_ne_zero (Nat.ne_zero_of_lt hfuel)
      have hrest := ih (Nat.lt_of_succ_lt_succ hfuel)
      have hsplit : documentChars (assignment :: assignments) =
          assignment.line ++ documentChars assignments := rfl
      have hskip := assignment.skip_blanks_line (documentChars assignments)
      have hline := assignment.read_line_line (documentChars assignments)
      obtain ⟨c, cs, hcons, hbare⟩ := assignment.exists_line_eq_cons (documentChars assignments)
      have hother : c ≠ '#' ∧ c ≠ '\n' ∧ c ≠ '\r' :=
        ⟨ne_of_bare hbare (by decide), ne_of_bare hbare (by decide), ne_of_bare hbare (by decide)⟩
      have hend (cs : List Char) : endOfLine? ('\n' :: cs) = some cs := rfl
      rw [hcons] at hskip hline
      rw [hsplit, hcons, readDocumentLines, hskip]
      simp [hother, hline, hend, hrest]

/-- A key that a table does not have yet gets its value behind all others. -/
theorem assign_of_not_mem {slots : Slots} {key : String} (h : key ∉ slots.map Prod.fst) (value : Toml) :
    Slots.assign true slots value [key] = some (slots ++ [(key, .value value)]) := by
  have hfind : slots.find? key = none := by
    rw [Slots.find?, List.lookup_eq_none_iff]
    intro slot hslot
    rw [bne_iff_ne]
    rintro rfl
    exact h (List.mem_map_of_mem hslot)
  have hfilter : slots.filter (fun other => other.1 != key) = slots := by
    rw [List.filter_eq_self]
    intro slot hslot
    rw [bne_iff_ne]
    rintro rfl
    exact h (List.mem_map_of_mem hslot)
  rw [Slots.assign, hfind, Slots.set, hfilter]
  rfl

/-- Assignments to different keys make up a table of them. -/
theorem assign_all_of_nodup (assignments : List Assignment) {slots : Slots}
    (h : (slots.map Prod.fst ++ assignments.map Assignment.key).Nodup) :
    Slots.assignAll slots (assignments.map fun assignment => ([assignment.key], assignment.value)) =
      some (slots ++ assignments.map fun assignment => (assignment.key, .value assignment.value)) := by
  induction assignments generalizing slots with
  | nil => simp [Slots.assignAll]
  | cons assignment assignments ih =>
      have hkey : assignment.key ∉ slots.map Prod.fst := by
        intro hmem
        exact (List.nodup_append.1 h).2.2 _ hmem _ List.mem_cons_self rfl
      have hrest : ((slots ++ [(assignment.key, Slot.value assignment.value)]).map Prod.fst ++
          assignments.map Assignment.key).Nodup := by
        simpa using h
      rw [List.map_cons, Slots.assignAll, assign_of_not_mem hkey, Option.bind_eq_bind, Option.bind_some,
        ih hrest]
      simp

/-- The lines of assignments have no header. -/
theorem leading_pairs_said (assignments : List Assignment) :
    leadingPairs (assignments.map Assignment.said) =
      (assignments.map fun assignment => ([assignment.key], assignment.value), []) := by
  induction assignments with
  | nil => rfl
  | cons assignment assignments ih => rw [List.map_cons, Assignment.said, leadingPairs, ih, List.map_cons]

/-- The entries of a table of finished values. -/
theorem entries_of_values (assignments : List Assignment) :
    Slot.entriesOf (assignments.map fun assignment => (assignment.key, .value assignment.value)) =
      assignments.map Assignment.entry := by
  induction assignments with
  | nil => rfl
  | cons assignment assignments ih =>
      rw [List.map_cons, Slot.entriesOf, ih, Slot.toToml, List.map_cons, Assignment.entry]

/-- Assignments to different keys say what is in the table of their values. -/
theorem table_of_said {assignments : List Assignment} (h : (assignments.map Assignment.key).Nodup) :
    tableOfLines? (assignments.map Assignment.said) =
      some (.table (assignments.map Assignment.entry)) := by
  have hslots := @assign_all_of_nodup assignments [] (by simpa using h)
  have hsections (slots : Slots) : addSections slots [] = some slots := by rw [addSections]
  rw [tableOfLines?, leading_pairs_said]
  simp only [hslots, hsections, Option.bind_eq_bind, Option.bind_some, List.nil_append, Slots.toToml,
    entries_of_values]

/-- A document does not start with a byte order mark. -/
theorem document_ne_mark (assignments : List Assignment) (tail : List Char) :
    documentChars assignments ≠ '\ufeff' :: tail := by
  intro hmark
  cases assignments with
  | nil => cases hmark
  | cons assignment assignments =>
      obtain ⟨c, cs, hcons, hbare⟩ := assignment.exists_line_eq_cons (documentChars assignments)
      have hfirst : c :: cs = '\ufeff' :: tail := hcons.symm.trans hmark
      exact ne_of_bare hbare (by decide) (List.cons.inj hfirst).1

/-- A document of assignments to different keys is read as the table of their values. -/
theorem parse_document {assignments : List Assignment} (h : (assignments.map Assignment.key).Nodup) :
    parse? (String.ofList (documentChars assignments)) = some (.table (assignments.map Assignment.entry)) := by
  have hfilled (assignment : Assignment) : assignment.line ≠ [] := by
    simp [Assignment.line, lineChars]
  have hfuel : assignments.length < (documentChars assignments).length + 1 :=
    Nat.lt_succ_of_le (length_le_length_flat_map hfilled assignments)
  have hlines := read_document_lines assignments hfuel
  rw [parse?, String.toList_ofList]
  split
  · rename_i hcs
    exact absurd hcs (document_ne_mark assignments _)
  · simp [hlines, table_of_said h]

end CardCatalog.Toml
