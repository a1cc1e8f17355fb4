import CardCatalog.Proofs.Json.Text

/-!
# Objects of members that are spelled in any way

A value may have several texts, and some of them are told apart from what follows only by a character
that ends a value. A key may be spelled with escapes, and space may stand between the parts of a text.
`Member` is a member of an object together with such texts of its key and its value and with the space
around them, and an object is read member by member from the text that they make up
(`parse_object_text`).
-/

namespace CardCatalog.Json

/-- The characters that may stand behind a value in a text: space, a comma, or a closing bracket. -/
def partEnds : List Char :=
  [' ', '\t', '\n', '\r', ',', ']', '\x7d']

/-- The text goes on with something that ends a value, or with nothing. -/
def EndsPart (rest : List Char) : Prop :=
  ∀ c ∈ rest.head?, c ∈ partEnds

/-- The text is read as the value at a depth, if something that ends a value stands behind it. -/
def IsTextOf (depth : Nat) (value : Json) (text : String) : Prop :=
  ∀ fuel rest, text.toList.length ≤ fuel → EndsPart rest →
    readValue fuel depth (text.toList ++ rest) = some (value, rest)

/-- The text that is written for a value is a text of it. -/
theorem ReadBack.is_text_of {depth : Nat} {value : Json} (h : ReadBack depth value) :
    IsTextOf depth value value.compact :=
  fun fuel rest hfuel _ => h fuel rest hfuel

/-! ## Space -/

/-- Space between the parts of a text, or none. -/
structure Space where
  chars : List Char
  is_space : ∀ c ∈ chars, isSpace c = true

namespace Space

/-- No space. -/
def none : Space :=
  ⟨[], by simp⟩

variable (space : Space)

/-- Space is skipped. -/
theorem skip_space_append (rest : List Char) : skipSpace (space.chars ++ rest) = skipSpace rest :=
  List.dropWhile_append_of_pos space.is_space

/-- A text of space is skipped to its end. -/
theorem skip_space_eq_nil : skipSpace space.chars = [] := by
  have hall := space.skip_space_append []
  rwa [List.append_nil] at hall

/-- A value is read after space. -/
theorem read_value_append (fuel depth : Nat) (cs : List Char) :
    readValue fuel depth (space.chars ++ cs) = readValue fuel depth cs := by
  cases fuel with
  | zero => rfl
  | succ fuel => rw [readValue, readValue, space.skip_space_append]

/-- Members are read after space. -/
theorem read_members_append (fuel depth : Nat) (cs : List Char) :
    readMembers fuel depth (space.chars ++ cs) = readMembers fuel depth cs := by
  cases fuel with
  | zero => rfl
  | succ fuel => rw [readMembers, readMembers, space.skip_space_append]

/-- Space ends a value. -/
theorem ends_part_append {rest : List Char} (h : EndsPart rest) : EndsPart (space.chars ++ rest) := by
  obtain ⟨chars, hspace⟩ := space
  cases chars with
  | nil => exact h
  | cons first chars =>
      intro c hc
      obtain rfl : first = c := Option.some.inj hc
      have hfirst := hspace first List.mem_cons_self
      simp only [isSpace, Bool.or_eq_true, beq_iff_eq] at hfirst
      simp only [partEnds, List.mem_cons]
      tauto

end Space

/-- A character that ends a value. -/
theorem ends_part_cons {c : Char} (h : c ∈ partEnds) (rest : List Char) : EndsPart (c :: rest) := by
  intro first hfirst
  obtain rfl : c = first := Option.some.inj hfirst
  exact h

/-! ## Members -/

/-- A key in a text. What stands behind its opening quote is read as the key. -/
structure KeyText where
  key : String
  tail : List Char
  read_tail : ∀ rest, readText (tail ++ rest) = some (some key, rest)

/-- The text that is written for a key. -/
def KeyText.quoted (key : String) : KeyText :=
  ⟨key, quoteTail key, read_text_escaped key⟩

/-- The space around the parts of a member. -/
structure Gaps where
  beforeKey : Space
  beforeColon : Space
  beforeValue : Space
  behindValue : Space

/-- No space around the parts of a member. -/
def Gaps.none : Gaps :=
  ⟨.none, .none, .none, .none⟩

/-- The characters of a member: the key, a colon and the text of the value, with space around them. -/
def memberChars (gaps : Gaps) (key : KeyText) (text : String) : List Char :=
  gaps.beforeKey.chars ++ '\x22' :: (key.tail ++ (gaps.beforeColon.chars ++ ':' ::
    (gaps.beforeValue.chars ++ (text.toList ++ gaps.behindValue.chars))))

/-- A member of an object at the outermost level, with texts of its key and its value. -/
structure Member where
  gaps : Gaps
  key : KeyText
  text : String
  value : Json
  is_text_of : IsTextOf 2 value text

namespace Member

/-- Read what stands behind a member that has been read: further ones after a comma, or the brace that
closes the object. -/
def readBehind (member : Member) (fuel : Nat) (cs : List Char) :
    Option (List (Option String × Json) × List Char) :=
  match skipSpace cs with
  | ',' :: rest => do
      let (members, rest) ← readMembers fuel 2 rest
      some ((some member.key.key, member.value) :: members, rest)
  | '\x7d' :: rest => some ([(some member.key.key, member.value)], rest)
  | _ => none

/-- The text of the member. -/
def code (member : Member) : String :=
  String.ofList (memberChars member.gaps member.key member.text)

/-- The key and the value. -/
def entry (member : Member) : String × Json :=
  (member.key.key, member.value)

/-- The member that is written for a value which is read back. -/
def ofReadBack (key : String) {value : Json} (h : ReadBack 2 value) : Member :=
  ⟨.none, .quoted key, value.compact, value, h.is_text_of⟩

variable (member : Member)

/-- The text of the value is a part of that of the member. -/
theorem length_text_lt_length_code : member.text.toList.length < member.code.toList.length := by
  rw [code, String.toList_ofList, memberChars]
  simp only [List.length_append, List.length_cons]
  omega

/-- Space and a quote stand first in the text of the member. -/
theorem skip_space_code (rest : List Char) :
    ∃ tail, skipSpace (member.code.toList ++ rest) = '\x22' :: tail := by
  rw [code, String.toList_ofList, memberChars, List.append_assoc, Space.skip_space_append]
  exact ⟨_, rfl⟩

/-- A member is read from its text, and then what stands behind it. -/
theorem read_members_code {fuel : Nat} (hfuel : member.text.toList.length ≤ fuel) {rest : List Char}
    (hends : EndsPart rest) :
    readMembers (fuel + 1) 2 (member.code.toList ++ rest) = member.readBehind fuel rest := by
  have hquote (tail : List Char) : skipSpace ('\x22' :: tail) = '\x22' :: tail := rfl
  have hcolon (tail : List Char) : skipSpace (':' :: tail) = ':' :: tail := rfl
  have hvalue := member.is_text_of fuel _ hfuel (member.gaps.behindValue.ends_part_append hends)
  rw [code, String.toList_ofList, memberChars]
  simp only [List.append_assoc, List.cons_append]
  rw [Space.read_members_append, readMembers, hquote]
  simp only [member.key.read_tail, Space.skip_space_append, hcolon, Space.read_value_append, hvalue,
    Option.bind_eq_bind, Option.bind_some]
  rfl

end Member

/-! ## Objects -/

/-- The text of an object of these members, with space around it. -/
def objectText (leading : Space) (members : List Member) (trailing : Space) : String :=
  String.ofList leading.chars ++ bracket "\x7b" (members.map Member.code) "\x7d" ++
    String.ofList trailing.chars

/-- Members are read one by one up to the closing brace. -/
theorem read_members_of_codes (member : Member) (members : List Member) (fuel : Nat) (rest : List Char)
    (hfuel : (member.code.toList ++ tailText (members.map Member.code) '\x7d').length ≤ fuel) :
    readMembers fuel 2 (member.code.toList ++ (tailText (members.map Member.code) '\x7d' ++ rest)) =
      some ((member :: members).map fun member => (some member.key.key, member.value), rest) := by
  induction members generalizing member fuel with
  | nil =>
      have hlength := member.length_text_lt_length_code
      rw [List.length_append] at hfuel
      obtain ⟨fuel, rfl⟩ := Nat.exists_eq_add_one_of_ne_zero (by omega : fuel ≠ 0)
      have htail : tailText ([].map Member.code) '\x7d' ++ rest = '\x7d' :: rest := rfl
      rw [htail, member.read_members_code (by omega) (ends_part_cons (by decide) rest)]
      rfl
  | cons next members ih =>
      have hlength := member.length_text_lt_length_code
      rw [List.map_cons, tail_text_cons] at hfuel ⊢
      simp only [List.length_cons, List.length_append, List.cons_append, List.append_assoc] at hfuel ⊢
      obtain ⟨fuel, rfl⟩ := Nat.exists_eq_add_one_of_ne_zero (by omega : fuel ≠ 0)
      have hread := ih next fuel (by rw [List.length_append]; omega)
      rw [member.read_members_code (by omega) (ends_part_cons (by decide) _)]
      simp [Member.readBehind, skipSpace, isSpace, hread]

/-- An object is read from the text of its members, and nothing but space stands behind it. -/
theorem read_object_text (leading : Space) (member : Member) (members : List Member) (trailing : Space)
    {fuel : Nat} (hfuel : (objectText leading (member :: members) trailing).toList.length ≤ fuel) :
    readValue (fuel + 1) 1 (objectText leading (member :: members) trailing).toList =
      some (.object ((member :: members).map Member.entry), trailing.chars) := by
  have htext : (objectText leading (member :: members) trailing).toList = leading.chars ++
      '\x7b' :: (member.code.toList ++ (tailText (members.map Member.code) '\x7d' ++ trailing.chars)) := by
    have hbracket : (bracket "\x7b" ((member :: members).map Member.code) "\x7d").toList =
        '\x7b' :: (member.code.toList ++ tailText (members.map Member.code) '\x7d') :=
      bracket_cons '\x7b' '\x7d' member.code (members.map Member.code)
    rw [objectText, String.toList_append, String.toList_append, hbracket, String.toList_ofList,
      String.toList_ofList, List.append_assoc, List.cons_append, List.append_assoc]
  rw [htext] at hfuel ⊢
  simp only [List.length_cons, List.length_append] at hfuel
  have hread := read_members_of_codes member members fuel trailing.chars
    (by rw [List.length_append]; omega)
  have hobject : objectOf ((member :: members).map fun member => (some member.key.key, member.value)) =
      .object ((member :: members).map Member.entry) := by
    rw [← object_of_keys, List.map_map]
    rfl
  have hbrace (tail : List Char) : skipSpace ('\x7b' :: tail) = '\x7b' :: tail := rfl
  have hlevel (value : Json) : atDepth 1 value = value := rfl
  -- The first member does not start with the closing brace.
  obtain ⟨tail, hquote⟩ :=
    member.skip_space_code (tailText (members.map Member.code) '\x7d' ++ trailing.chars)
  rw [Space.read_value_append, readValue, hbrace]
  simp only [hquote, hread, hobject, hlevel, Option.bind_eq_bind, Option.bind_some]
  rfl

/-- An object is read from the text of its members. -/
theorem parse_object_text (leading : Space) (member : Member) (members : List Member) (trailing : Space) :
    parse? (objectText leading (member :: members) trailing) =
      some (.object ((member :: members).map Member.entry)) := by
  have hread := read_object_text leading member members trailing
    (by omega : _ ≤ 2 * (objectText leading (member :: members) trailing).toList.length + 1)
  rw [parse?]
  simp only [hread, trailing.skip_space_eq_nil, Option.bind_eq_bind, Option.bind_some]
  rfl

end CardCatalog.Json
