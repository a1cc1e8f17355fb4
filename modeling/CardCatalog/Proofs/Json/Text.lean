import CardCatalog.Json.Printer
import CardCatalog.Json.Reader
import CardCatalog.Proofs.Json.Value
import CardCatalog.Proofs.Text.Scan
import Mathlib.Tactic.SplitIfs

/-!
# JSON text read back

A text between quotes is read back as the text, whatever its characters are (`read_text_escaped`). A
value of texts, lists and objects, nested no deeper than the reader goes, is read back from its text
without spaces (`IsTextual.parse_compact`).
-/

namespace CardCatalog.Json

open CardCatalog.Text

/-! ## Texts between quotes -/

/-- The unit that the escaped form of a character is read as. A control character without a letter of
its own is read as its code. -/
def unitOf (c : Char) : TextUnit :=
  if c.toNat < 32 ∧ c.toNat ∉ [8, 9, 10, 12, 13] then .code c.toNat else .char c

/-- The two last digits of four in base sixteen make up a code below 256. -/
theorem read_hex_of_lt {n : Nat} (h : n < 256) (rest : List Char) :
    readHex4 ('0' :: '0' :: hexDigit (lastHexDigit (n / 16)) :: hexDigit (lastHexDigit n) :: rest) =
      some (n, rest) := by
  have hzero : hexDigitValue '0' = some 0 := by decide
  have hvalue : n / 16 % 16 * 16 + n % 16 = n := by omega
  simp [readHex4, hzero, hex_digit_value_hex_digit, lastHexDigit, hvalue]

/-- The escaped form of a character is read as one unit. -/
theorem read_units_escape_char (c : Char) (fuel : Nat) (rest : List Char) :
    readUnits (fuel + 1) (escapeChar c ++ rest) =
      (readUnits fuel rest).map fun read => (unitOf c :: read.1, read.2) := by
  have hcode (d : Char) : (c.toNat == d.toNat) = (c == d) := by
    rw [Bool.eq_iff_iff, beq_iff_eq, beq_iff_eq, Char.toNat_inj]
  have hbackspace : (c.toNat == 8) = (c == '\x08') := hcode '\x08'
  have hfeed : (c.toNat == 12) = (c == '\x0c') := hcode '\x0c'
  rw [escapeChar, hbackspace, hfeed]
  split_ifs with h₁ h₂ h₃ h₄ h₅ h₆ h₇ hcontrol
  rotate_right 2
  · have hunit : unitOf c = .code c.toNat := by
      refine if_pos ⟨hcontrol, ?_⟩
      have hne (d : Char) (h : ¬ (c == d) = true) : c.toNat ≠ d.toNat := by
        rwa [← hcode, beq_iff_eq] at h
      simpa using ⟨hne _ h₆, hne _ h₅, hne _ h₃, hne _ h₇, hne _ h₄⟩
    have hread := read_hex_of_lt (n := c.toNat) (by omega) rest
    cases hrest : readUnits fuel rest <;> simp [readUnits, hread, hrest, hunit]
  · have hunit : unitOf c = .char c := if_neg fun h => hcontrol h.1
    have hquote : c ≠ '\x22' := by simpa using h₁
    have hbackslash : c ≠ '\\' := by simpa using h₂
    cases hrest : readUnits fuel rest <;>
      simp [readUnits, hbackslash, hcontrol, hrest, hunit]
  -- The escapes by a letter.
  all_goals
    obtain rfl : c = _ := beq_iff_eq.1 (by assumption)
    cases hread : readUnits fuel rest <;> simp [readUnits, hread, unitOf]

/-- The escaped form of a text is read up to the quote that closes it. -/
theorem read_units_escaped (cs : List Char) {fuel : Nat} (hfuel : cs.length < fuel) (rest : List Char) :
    readUnits fuel (cs.flatMap escapeChar ++ '\x22' :: rest) = some (cs.map unitOf, rest) := by
  induction cs generalizing fuel with
  | nil =>
      obtain ⟨fuel, rfl⟩ := Nat.exists_eq_add_of_lt hfuel
      simp [readUnits]
  | cons c cs ih =>
      obtain ⟨fuel, rfl⟩ := Nat.exists_eq_add_one_of_ne_zero (Nat.ne_zero_of_lt hfuel)
      rw [List.flatMap_cons, List.append_assoc, read_units_escape_char,
        ih (Nat.lt_of_succ_lt_succ hfuel)]
      rfl

/-- A unit that a character is read as stands for the character. -/
theorem decode_units_cons (c : Char) (units : List TextUnit) :
    decodeUnits (unitOf c :: units) = (decodeUnits units).map (c :: ·) := by
  unfold unitOf
  split
  · rename_i hcontrol
    -- The code lies below those of the surrogates.
    have hhigh : ¬ 0xD800 ≤ c.toNat := by omega
    have hlow : ¬ 0xDC00 ≤ c.toNat := by omega
    cases units with
    | nil => simp [decodeUnits, hhigh]
    | cons unit units => cases unit <;> simp [decodeUnits, hhigh, hlow]
  · rw [decodeUnits]

/-- The units that characters are read as stand for the characters. -/
theorem decode_units_of_chars (cs : List Char) : decodeUnits (cs.map unitOf) = some cs := by
  induction cs with
  | nil => rfl
  | cons c cs ih => rw [List.map_cons, decode_units_cons, ih, Option.map_some]

/-- The escaped form of a character is not empty. -/
theorem escape_char_ne_nil (c : Char) : escapeChar c ≠ [] := by
  unfold escapeChar
  split_ifs <;> exact List.cons_ne_nil _ _

/-- The characters of a text between quotes, from the first one to the closing quote. -/
def quoteTail (s : String) : List Char :=
  s.toList.flatMap escapeChar ++ ['\x22']

/-- A text between quotes starts with its opening quote. -/
theorem quote_to_list (s : String) : (quote s).toList = '\x22' :: quoteTail s :=
  String.toList_ofList

/-- A text is read back after its opening quote. -/
theorem read_text_escaped (s : String) (rest : List Char) :
    readText (quoteTail s ++ rest) = some (some s, rest) := by
  have hfuel : s.toList.length < (quoteTail s ++ rest).length + 1 := by
    have hle := length_le_length_flat_map escape_char_ne_nil s.toList
    rw [quoteTail, List.length_append, List.length_append]
    omega
  have htail : quoteTail s ++ rest = s.toList.flatMap escapeChar ++ '\x22' :: rest := by
    rw [quoteTail, List.append_assoc]
    rfl
  rw [htail] at hfuel ⊢
  rw [readText, read_units_escaped _ hfuel]
  simp [decode_units_of_chars]

/-! ## Lists and objects -/

/-- What stands after the first of several parts, up to the bracket that closes them. -/
def tailText (parts : List String) (closing : Char) : List Char :=
  parts.flatMap (fun part => ',' :: part.toList) ++ [closing]

/-- A comma stands before each of the further parts. -/
theorem tail_text_cons (part : String) (parts : List String) (closing : Char) :
    tailText (part :: parts) closing = ',' :: (part.toList ++ tailText parts closing) := by
  simp [tailText]

/-- The text of parts between brackets: the opening one, the first part, and what stands after it. -/
theorem bracket_cons (opening closing : Char) (part : String) (parts : List String) :
    (bracket (String.singleton opening) (part :: parts) (String.singleton closing)).toList =
      opening :: (part.toList ++ tailText parts closing) := by
  have hparts : ∀ part : String, (String.intercalate "," (part :: parts)).toList ++ [closing] =
      part.toList ++ tailText parts closing := by
    induction parts with
    | nil => intro part; rw [String.intercalate_singleton]; rfl
    | cons next parts ih =>
        intro part
        rw [String.intercalate_cons_cons, String.toList_append, String.toList_append,
          List.append_assoc, List.append_assoc, ih next, tail_text_cons]
        rfl
  rw [bracket, String.toList_append, String.toList_append, String.toList_singleton,
    String.toList_singleton, List.append_assoc, hparts]
  rfl

/-- The value is read back from its text at a depth, whatever stands behind it. -/
def ReadBack (depth : Nat) (value : Json) : Prop :=
  ∀ fuel rest, value.compact.toList.length ≤ fuel →
    readValue fuel depth (value.compact.toList ++ rest) = some (value, rest)

/-- A value is read back if one step of the reader reads it back. -/
theorem ReadBack.of_step {depth : Nat} {value : Json} (hfilled : value.compact.toList ≠ [])
    (hread : ∀ fuel rest, value.compact.toList.length ≤ fuel + 1 →
      readValue (fuel + 1) depth (value.compact.toList ++ rest) = some (value, rest)) :
    ReadBack depth value := by
  intro fuel rest hfuel
  have hpos := List.length_pos_iff.2 hfilled
  obtain ⟨fuel, rfl⟩ := Nat.exists_eq_add_one_of_ne_zero (by omega : fuel ≠ 0)
  exact hread fuel rest hfuel

/-- A closing bracket is no value. -/
theorem read_value_closing {cs rest : List Char} (h : skipSpace cs = ']' :: rest) (fuel depth : Nat) :
    readValue fuel depth cs = none := by
  cases fuel with
  | zero => rfl
  | succ fuel => simp [readValue, h, readNumeral, isAsciiDigit]

/-- Items that are read back one by one are read back as a list. -/
theorem read_items_compact {depth : Nat} {item : Json} {items : List Json} (hitem : ReadBack depth item)
    (hitems : ∀ other ∈ items, ReadBack depth other) (fuel : Nat) (rest : List Char)
    (hfuel : (item.compact.toList ++ tailText (compactItems items) ']').length ≤ fuel) :
    readItems fuel depth (item.compact.toList ++ (tailText (compactItems items) ']' ++ rest)) =
      some (item :: items, rest) := by
  induction items generalizing item fuel with
  | nil =>
      simp only [compactItems, tailText, List.flatMap_nil, List.nil_append, List.length_append,
        List.length_singleton] at hfuel ⊢
      obtain ⟨fuel, rfl⟩ := Nat.exists_eq_add_one_of_ne_zero (by omega : fuel ≠ 0)
      rw [readItems, hitem fuel _ (by omega)]
      rfl
  | cons next items ih =>
      rw [compactItems, tail_text_cons, List.length_append, List.length_cons] at hfuel
      obtain ⟨fuel, rfl⟩ := Nat.exists_eq_add_one_of_ne_zero (by omega : fuel ≠ 0)
      obtain ⟨hnext, hrest⟩ := List.forall_mem_cons.1 hitems
      rw [compactItems, tail_text_cons, List.cons_append, List.append_assoc, readItems,
        hitem fuel _ (by omega)]
      have hread := ih hnext hrest fuel (by omega)
      simp [skipSpace, isSpace, hread]

/-- A list is read back if its items are. -/
theorem ReadBack.array {depth : Nat} {items : List Json} (hdepth : depth ≤ maxDepth)
    (h : ∀ item ∈ items, ReadBack (depth + 1) item) : ReadBack depth (.array items) := by
  have hlevel (value : Json) : atDepth depth value = value := if_neg (Nat.not_lt.2 hdepth)
  cases items with
  | nil =>
      have htext : (Json.array []).compact.toList = ['[', ']'] := rfl
      refine .of_step (by simp [htext]) fun fuel rest _ => ?_
      simp [htext, readValue, skipSpace, isSpace, hlevel]
  | cons item items =>
      obtain ⟨hitem, hitems⟩ := List.forall_mem_cons.1 h
      have htext : (Json.array (item :: items)).compact.toList =
          '[' :: (item.compact.toList ++ tailText (compactItems items) ']') := by
        rw [compact, compactItems]
        exact bracket_cons '[' ']' item.compact (compactItems items)
      refine .of_step (by simp [htext]) fun fuel rest hfuel => ?_
      rw [htext, List.length_cons] at hfuel
      have hread := read_items_compact hitem hitems fuel rest (Nat.le_of_succ_le_succ hfuel)
      rw [htext, List.cons_append, List.append_assoc, readValue]
      -- The first item does not start with the closing bracket, since it is read back.
      have hopen (cs : List Char) : skipSpace ('[' :: cs) = '[' :: cs := rfl
      rw [hopen]
      simp only
      split
      · rename_i hclosing
        have hnone := read_value_closing hclosing fuel (depth + 1)
        rw [hitem fuel _ (by rw [List.length_append] at hfuel; omega)] at hnone
        cases hnone
      · rw [hread]
        simp [hlevel]

/-- The texts of members start with that of the first one. -/
theorem compact_members_cons (key : String) (value : Json) (members : List (String × Json)) :
    compactMembers ((key, value) :: members) =
      (quote key ++ ":" ++ value.compact) :: compactMembers members := rfl

/-- The text of a member: the key, a colon, and the value. -/
theorem member_to_list (key : String) (value : Json) :
    (quote key ++ ":" ++ value.compact).toList =
      '\x22' :: (quoteTail key ++ ':' :: value.compact.toList) := by
  rw [String.toList_append, String.toList_append, quote_to_list, List.append_assoc, List.cons_append]
  rfl

/-- Members whose values are read back one by one are read back as a list. -/
theorem read_members_compact {depth : Nat} (key : String) {value : Json}
    {members : List (String × Json)} (hvalue : ReadBack depth value)
    (hmembers : ∀ member ∈ members, ReadBack depth member.2) (fuel : Nat) (rest : List Char)
    (hfuel : ('\x22' :: (quoteTail key ++ ':' :: (value.compact.toList ++
      tailText (compactMembers members) '\x7d'))).length ≤ fuel) :
    readMembers fuel depth ('\x22' :: (quoteTail key ++ ':' :: (value.compact.toList ++
      (tailText (compactMembers members) '\x7d' ++ rest)))) =
      some ((some key, value) :: members.map (fun member => (some member.1, member.2)), rest) := by
  induction members generalizing key value fuel with
  | nil =>
      simp only [List.length_cons, List.length_append] at hfuel
      obtain ⟨fuel, rfl⟩ := Nat.exists_eq_add_one_of_ne_zero (by omega : fuel ≠ 0)
      have hread := hvalue fuel ('\x7d' :: rest) (by omega)
      simp [compactMembers, tailText, readMembers, skipSpace, isSpace, read_text_escaped, hread]
  | cons member members ih =>
      obtain ⟨next, nextValue⟩ := member
      obtain ⟨hnext, hrest⟩ := List.forall_mem_cons.1 hmembers
      rw [compact_members_cons, tail_text_cons, member_to_list] at hfuel ⊢
      simp only [List.length_cons, List.length_append, List.cons_append, List.append_assoc] at hfuel ⊢
      obtain ⟨fuel, rfl⟩ := Nat.exists_eq_add_one_of_ne_zero (by omega : fuel ≠ 0)
      have hfirst := fun cs => hvalue fuel cs (by omega)
      have hread := ih next hnext hrest fuel (by simp only [List.length_cons, List.length_append]; omega)
      simp [readMembers, skipSpace, isSpace, read_text_escaped, hfirst, hread]

/-- Members with usable keys make an object. -/
theorem object_of_keys (members : List (String × Json)) :
    objectOf (members.map fun member => (some member.1, member.2)) = .object members := by
  rw [objectOf, map_m_map_eq_some (fun member : String × Json => (some member.1, member.2))
    (fun member => member.1.map (·, member.2)) (fun _ => rfl)]

/-- An object is read back if the values of its members are. -/
theorem ReadBack.object {depth : Nat} {members : List (String × Json)} (hdepth : depth ≤ maxDepth)
    (h : ∀ member ∈ members, ReadBack (depth + 1) member.2) : ReadBack depth (.object members) := by
  have hlevel (value : Json) : atDepth depth value = value := if_neg (Nat.not_lt.2 hdepth)
  cases members with
  | nil =>
      have htext : (Json.object []).compact.toList = ['\x7b', '\x7d'] := rfl
      refine .of_step (by simp [htext]) fun fuel rest _ => ?_
      simp [htext, readValue, skipSpace, isSpace, hlevel]
  | cons member members =>
      obtain ⟨key, value⟩ := member
      obtain ⟨hvalue, hmembers⟩ := List.forall_mem_cons.1 h
      have htext : (Json.object ((key, value) :: members)).compact.toList =
          '\x7b' :: '\x22' :: (quoteTail key ++ ':' :: (value.compact.toList ++
            tailText (compactMembers members) '\x7d')) := by
        rw [compact, compact_members_cons]
        refine (bracket_cons '\x7b' '\x7d' _ _).trans ?_
        rw [member_to_list, List.cons_append, List.append_assoc, List.cons_append]
      refine .of_step (by simp [htext]) fun fuel rest hfuel => ?_
      rw [htext, List.length_cons] at hfuel
      have hread := read_members_compact key hvalue hmembers fuel rest (Nat.le_of_succ_le_succ hfuel)
      have hobject := object_of_keys ((key, value) :: members)
      rw [List.map_cons] at hobject
      simp [htext, readValue, skipSpace, isSpace, hread, hobject, hlevel]

/-! ## Values without numbers -/

/-- The value is made of texts, truth values and `null`, in lists and objects that are nested no
deeper than a bound. -/
def IsTextual : Nat → Json → Prop
  | _, .null | _, .bool _ | _, .text _ => True
  | bound + 1, .array items => ∀ item ∈ items, IsTextual bound item
  | bound + 1, .object members => ∀ member ∈ members, IsTextual bound member.2
  | _, _ => False

/-- A text nests nothing. -/
@[simp]
theorem is_textual_text (bound : Nat) (s : String) : IsTextual bound (.text s) := by
  cases bound <;> trivial

/-- A text or `null` nests nothing. -/
@[simp]
theorem is_textual_of_text (bound : Nat) (s : Option String) : IsTextual bound (ofText? s) := by
  cases s <;> cases bound <;> trivial

/-- A list of texts nests one level. -/
@[simp]
theorem is_textual_of_texts (bound : Nat) (texts : List String) :
    IsTextual (bound + 1) (ofTexts texts) := by
  intro item hitem
  obtain ⟨text, _, rfl⟩ := List.mem_map.1 hitem
  exact is_textual_text bound text

/-- A value without numbers is usable. -/
theorem IsTextual.is_usable {bound : Nat} {value : Json} (h : IsTextual bound value) :
    value.isUsable = true := by
  induction bound generalizing value with
  | zero =>
      cases value with
      | null | bool | text => rfl
      | _ => exact h.elim
  | succ bound ih =>
      cases value with
      | null | bool | text => rfl
      | array items =>
          rw [isUsable, items_usable_eq_all]
          exact List.all_eq_true.2 fun item hitem => ih (h item hitem)
      | object members =>
          rw [isUsable, members_usable_eq_all]
          exact List.all_eq_true.2 fun member hmember => ih (h member hmember)
      | _ => exact h.elim

/-- Values without parts are read back at any depth. -/
theorem IsTextual.read_back_flat {value : Json} (h : IsTextual 0 value) (depth : Nat) :
    ReadBack depth value := by
  cases value with
  | null => exact .of_step (by decide) fun fuel rest _ => by simp [compact, readValue, skipSpace, isSpace]
  | bool value =>
      cases value <;>
        exact .of_step (by decide) fun fuel rest _ => by
          simp [compact, readValue, skipSpace, isSpace]
  | text s =>
      refine .of_step (by simp [compact, quote_to_list]) fun fuel rest _ => ?_
      simp [compact, quote_to_list, readValue, skipSpace, isSpace, read_text_escaped]
  | _ => exact h.elim

/-- A value without numbers is read back where the reader can still go as deep as it is nested. -/
theorem IsTextual.read_back {bound : Nat} {value : Json} (h : IsTextual bound value) {depth : Nat}
    (hdepth : depth + bound ≤ maxDepth + 1) : ReadBack depth value := by
  induction bound generalizing depth value with
  | zero => exact h.read_back_flat depth
  | succ bound ih =>
      cases value with
      | array items => exact .array (by omega) fun item hitem => ih (h item hitem) (by omega)
      | object members => exact .object (by omega) fun member hmember => ih (h member hmember) (by omega)
      | null | bool | text =>
          refine read_back_flat ?_ depth
          trivial
      | number | unusable => exact h.elim

/-- A value without numbers, nested no deeper than the reader goes, is read back from its text. -/
theorem IsTextual.parse_compact {value : Json} (h : IsTextual maxDepth value) :
    parse? value.compact = some value := by
  have hback : ReadBack 1 value := h.read_back (by omega)
  have hread := hback (2 * value.compact.toList.length + 2) [] (by omega)
  rw [List.append_nil] at hread
  rw [parse?]
  simp only [hread, Option.bind_eq_bind, Option.bind_some]
  rfl

end CardCatalog.Json
