import CardCatalog.Proofs.Query.KeyedTerm
import Mathlib.Data.List.Perm.Subperm

/-!
# Colors as sets

A value that names no combination of colors stands for the colors whose letters occur in it
(`mem_parse_iff`), and a search for colors looks at nothing but the set of them, so values with the same
letters find the same rows (`finds_of_same_letters`). A row whose color list repeats nothing is found
exactly if it is found by both inclusions (`finds_exactly_iff`), since lists without repetitions
that include one another in one direction and are equally long include one another in the other.
-/

namespace CardCatalog

open CardCatalog.Text

/-! ## The colors of a value -/

namespace Color

/-- The letter of a color. -/
def letter : Color → Char
  | .white => 'w'
  | .blue => 'u'
  | .black => 'b'
  | .red => 'r'
  | .green => 'g'

/-- The names of the combinations of colors. -/
def combinationNames : List String :=
  combinations.map Prod.fst

/-- A character stands for the color whose letter it is, in either case. -/
theorem of_letter_eq_some_iff {c : Char} {color : Color} :
    ofLetter? c = some color ↔ asciiLower c = color.letter := by
  unfold ofLetter?
  split
  all_goals
    rename_i hletter
    cases color <;> simp_all [letter]

/-- Adding a color to a list adds it if the list lacks it. -/
theorem mem_add_new {colors : List Color} {added color : Color} :
    color ∈ addNew colors added ↔ color ∈ colors ∨ color = added := by
  rw [addNew]
  split
  · rename_i hmem
    refine ⟨.inl, fun h => h.elim id ?_⟩
    rintro rfl
    exact hmem
  · rw [List.mem_append, List.mem_singleton]

/-- Adding colors one by one adds all of them. -/
theorem mem_foldl_add_new {added colors : List Color} {color : Color} :
    color ∈ added.foldl addNew colors ↔ color ∈ colors ∨ color ∈ added := by
  induction added generalizing colors with
  | nil => simp
  | cons first added ih => rw [List.foldl_cons, ih, mem_add_new, List.mem_cons, or_assoc]

/-- The colors of a text are those whose letters occur in it, in either case. -/
theorem mem_of_letters_iff {cs : List Char} {color : Color} :
    color ∈ ofLetters cs ↔ color.letter ∈ cs.map asciiLower := by
  rw [ofLetters, mem_foldl_add_new, List.mem_filterMap, List.mem_map]
  simp [of_letter_eq_some_iff]

/-- A value that names no combination stands for the colors whose letters occur in it. -/
theorem mem_parse_iff {value : String} (hname : toLower value ∉ combinationNames) {color : Color} :
    color ∈ parse value ↔ color.letter ∈ (lowerAscii value).toList := by
  have hnone : ofCombination? (toLower value) = none := by
    rw [ofCombination?, List.lookup_eq_none_iff]
    intro combination hmem
    rw [bne_iff_ne]
    rintro heq
    exact hname (heq ▸ List.mem_map_of_mem hmem)
  have hletter : color.letter.toNat < 128 ∧ color.letter ≠ 'i' ∧ color.letter ≠ 'k' := by
    cases color <;> decide
  rw [parse, hnone, Option.getD_none, mem_of_letters_iff, toLower, String.toList_ofList,
    mem_lower_after_iff hletter.1 hletter.2.1 hletter.2.2, to_list_lower_ascii]

/-- Values in which the same letters of colors occur stand for the same colors, in some order. -/
theorem parse_perm_of_same_letters {value other : String} (hvalue : toLower value ∉ combinationNames)
    (hother : toLower other ∉ combinationNames)
    (hletters : ∀ color : Color,
      color.letter ∈ (lowerAscii value).toList ↔ color.letter ∈ (lowerAscii other).toList) :
    (parse value).Perm (parse other) := by
  rw [List.perm_ext_iff_of_nodup (nodup_parse value) (nodup_parse other)]
  intro color
  rw [mem_parse_iff hvalue, mem_parse_iff hother, hletters color]

/-- Colors have different codes. -/
theorem code_injective : Function.Injective code := by
  intro color other h
  revert h
  cases color <;> cases other <;> decide

/-- The entry of a color in a stored list. -/
def entry (color : Color) : Option String :=
  some color.code

/-- Different colors have different entries. -/
theorem nodup_map_entry {colors : List Color} (h : colors.Nodup) : (colors.map entry).Nodup :=
  h.map fun _ _ heq => code_injective (Option.some.inj heq)

end Color

/-! ## Color lists of rows -/

section

variable {colors : List Color} {list : List (Option String)}

/-- All colors are among the entries. -/
theorem all_among_iff :
    allAmong colors list = true ↔ colors.map Color.entry ⊆ list := by
  simp [allAmong, List.subset_def, Color.entry]

/-- All entries with a value are among the colors. -/
theorem entries_among_iff :
    entriesAmong list colors = true ↔
      ∀ entry ∈ list, entry ≠ none → entry ∈ colors.map Color.entry := by
  rw [entriesAmong, List.all_eq_true]
  refine forall₂_congr fun entry _ => ?_
  cases entry <;> simp [Color.entry]

/-- Colors that do not repeat make up a list if all of them are among its entries, and these are as
many. -/
theorem perm_iff_of_length (hcolors : colors.Nodup) :
    (allAmong colors list && list.length == colors.length) = true ↔
      (colors.map Color.entry).Perm list := by
  rw [Bool.and_eq_true, all_among_iff, beq_iff_eq]
  constructor
  · rintro ⟨hsubset, hlength⟩
    refine (List.subperm_of_subset (Color.nodup_map_entry hcolors) hsubset).perm_of_length_le ?_
    rw [List.length_map, hlength]
  · intro hperm
    exact ⟨hperm.subset, by rw [← hperm.length_eq, List.length_map]⟩

/-- Colors that do not repeat make up a list that does not repeat any entry if all of them are among its
entries, and these are all among the colors and have a value. -/
theorem perm_iff_of_entries (hcolors : colors.Nodup) (hlist : list.Nodup) :
    (colors.map Color.entry).Perm list ↔
      allAmong colors list = true ∧ entriesAmong list colors = true ∧ none ∉ list := by
  rw [List.perm_ext_iff_of_nodup (Color.nodup_map_entry hcolors) hlist, all_among_iff,
    entries_among_iff]
  constructor
  · intro h
    refine ⟨fun entry => (h entry).1, fun entry hentry _ => (h entry).2 hentry, fun hnone => ?_⟩
    simpa [Color.entry] using (h none).2 hnone
  · rintro ⟨hsubset, hentries, hnone⟩ entry
    refine ⟨fun hmem => hsubset hmem, fun hmem => hentries entry hmem ?_⟩
    rintro rfl
    exact hnone hmem

/-- The order of the colors makes no difference to what is among what. -/
theorem among_of_perm {other : List Color} (h : colors.Perm other) (list : List (Option String)) :
    allAmong colors list = allAmong other list ∧ entriesAmong list colors = entriesAmong list other := by
  have hentries := h.map Color.entry
  constructor
  · rw [Bool.eq_iff_iff, all_among_iff, all_among_iff, hentries.subset_congr_left]
  · rw [Bool.eq_iff_iff, entries_among_iff, entries_among_iff]
    simp only [hentries.mem_iff]

end

/-! ## Searches for colors -/

namespace SearchKey

section

variable {field : Field} (hcolor : field.isColorList = true) (row : Row)

/-- A search for the same colors in another order selects the same rows. -/
theorem selects_color_search_of_perm {value other : String}
    (h : (Color.parse value).Perm (Color.parse other)) (field : Field) (comparison : Option Comparison) :
    (colorSearch field value comparison).selects row =
      (colorSearch field other comparison).selects row := by
  obtain ⟨hall, hentries⟩ := among_of_perm h (row.colorList field)
  unfold colorSearch
  dsimp only
  rw [h.isEmpty_eq]
  split
  · rfl
  · split
    all_goals
      simp only [Predicate.selects, Predicate.eval, Constraint.eval, hall, hentries, h.length_eq]

include hcolor

/-- Whatever the comparison, a search without colors selects the rows with an empty list. -/
theorem selects_colorless_iff {value : String} (hvalue : Color.parse value = [])
    (comparison : Option Comparison) :
    (colorSearch field value comparison).selects row = true ↔ row.colorList field = [] := by
  unfold colorSearch
  rw [hvalue]
  simp [Predicate.selects, Predicate.eval, Constraint.eval, hcolor, Truth.holds_of_bool]

/-- An exact search selects the rows whose list is made up of the colors of the value. -/
theorem selects_exactly_iff_perm (value : String) :
    (colorSearch field value (some .eq)).selects row = true ↔
      ((Color.parse value).map Color.entry).Perm (row.colorList field) := by
  by_cases hvalue : Color.parse value = []
  · rw [selects_colorless_iff hcolor row hvalue, hvalue, List.map_nil, List.nil_perm]
  · have hsearch : colorSearch field value (some .eq) =
        .test (.colorsExactly field (Color.parse value)) := by
      simp [colorSearch, hvalue]
    rw [hsearch, Predicate.selects, Predicate.eval, Constraint.eval, Truth.holds_of_bool,
      perm_iff_of_length (Color.nodup_parse value)]

/-- If nothing repeats in the list of a row, an exact search selects the row if both inclusions do, and
no entry of the list is without a value. -/
theorem selects_exactly_iff (value : String) (hdistinct : (row.colorList field).Nodup) :
    (colorSearch field value (some .eq)).selects row = true ↔
      (colorSearch field value (some .ge)).selects row = true ∧
        (colorSearch field value (some .le)).selects row = true ∧ none ∉ row.colorList field := by
  by_cases hvalue : Color.parse value = []
  · simp only [selects_colorless_iff hcolor row hvalue]
    constructor
    · intro hempty
      simp [hempty]
    · exact fun h => h.1
  · have hinclude : colorSearch field value (some .ge) =
        .test (.colorsInclude field (Color.parse value)) := by
      simp [colorSearch, hvalue]
    have hwithin : colorSearch field value (some .le) =
        .test (.colorsWithin field (Color.parse value)) := by
      simp [colorSearch, hvalue]
    rw [selects_exactly_iff_perm hcolor, perm_iff_of_entries (Color.nodup_parse value) hdistinct,
      hinclude, hwithin]
    simp only [Predicate.selects, Predicate.eval, Constraint.eval, Truth.holds_of_bool]

end

/-- A key whose field is a color list builds a search for colors. -/
theorem build_color {key : SearchKey} {field : Field} (hfield : key.fields = [field])
    (hcolor : field.isColorList = true) (value : String) (comparison : Option Comparison) :
    key.accepts value = true ∧ key.build? value comparison = some (colorSearch field value comparison) := by
  cases key
  case color | identity =>
    obtain ⟨rfl, _⟩ := List.cons_eq_cons.1 hfield
    exact ⟨rfl, rfl⟩
  case name | exclude => exact absurd hfield (by simp [fields])
  all_goals
    obtain ⟨rfl, _⟩ := List.cons_eq_cons.1 hfield
    exact absurd hcolor (by decide)

end SearchKey

/-! ## Terms for colors -/

/-- A term with a key for colors is a search for the colors of its value, and never dropped. -/
theorem Term.predicate_color {key : SearchKey} {field : Field} (hfield : key.fields = [field])
    (hcolor : field.isColorList = true) {spelling : String}
    (hspelling : toLower spelling ∈ key.spellings) (value : String)
    (comparison : Option Comparison) :
    (Term.ofKey spelling value comparison).predicate? =
      some (SearchKey.colorSearch field value comparison) := by
  obtain ⟨haccepts, hbuild⟩ := SearchKey.build_color hfield hcolor value comparison
  rw [Term.predicate_of_key hspelling, if_pos haccepts, hbuild]

/-- If the color list of a row holds texts, none of them twice, a term for exactly the colors of a value
finds the row if and only if the term for at least these and the term for at most these do, which is
so if the list is made up of the codes of the colors. -/
theorem finds_exactly_iff {key : SearchKey} {field : Field} (hfield : key.fields = [field])
    (hcolor : field.isColorList = true) {spelling : String}
    (hspelling : toLower spelling ∈ key.spellings) (value : String) {row : Row} {entries : List String}
    (hentries : row.colorList field = entries.map some) (hdistinct : entries.Nodup) :
    ((Term.ofKey spelling value (some .eq)).finds row = true ↔
      (Term.ofKey spelling value (some .ge)).finds row = true ∧
        (Term.ofKey spelling value (some .le)).finds row = true) ∧
    ((Term.ofKey spelling value (some .eq)).finds row = true ↔
      entries.Perm ((Color.parse value).map Color.code)) ∧
    (value ≠ "" →
      Term.parse (spelling ++ "=" ++ value) = Term.ofKey spelling value (some .eq) ∧
        Term.parse (spelling ++ ">=" ++ value) = Term.ofKey spelling value (some .ge) ∧
        Term.parse (spelling ++ "<=" ++ value) = Term.ofKey spelling value (some .le)) := by
  have hfinds (comparison : Comparison) :=
    Term.finds_of_predicate (Term.predicate_color hfield hcolor hspelling value (some comparison)) row
  refine ⟨?_, ?_, fun hvalue => ?_⟩
  · have hlist : (row.colorList field).Nodup :=
      hentries ▸ hdistinct.map fun _ _ heq => Option.some.inj heq
    have htexts : none ∉ row.colorList field := by simp [hentries]
    rw [hfinds, hfinds, hfinds, SearchKey.selects_exactly_iff hcolor row value hlist]
    simp only [htexts, not_false_eq_true, and_true]
  · have hcodes : ((Color.parse value).map Color.entry) =
        ((Color.parse value).map Color.code).map some := by
      rw [List.map_map]
      rfl
    rw [hfinds, SearchKey.selects_exactly_iff_perm hcolor, hentries, hcodes,
      List.map_perm_map_iff fun _ _ => Option.some.inj, List.perm_comm]
  · have hexactly := Term.parse_of_key hspelling hvalue
      (Term.leaves_symbol_of_not_strict .eq (by decide) _)
    have hinclude := Term.parse_of_key hspelling hvalue
      (Term.leaves_symbol_of_not_strict .ge (by decide) _)
    have hwithin := Term.parse_of_key hspelling hvalue
      (Term.leaves_symbol_of_not_strict .le (by decide) _)
    exact ⟨hexactly, hinclude, hwithin⟩

/-- A green and blue card. -/
def simicElves : Row :=
  { llanowarElves with colors := [some "U", some "G"] }

/-- The green and blue card is found by the name of the combination under either inclusion, and so as
exactly of these colors. -/
theorem finds_exactly_iff_simic :
    SearchKey.color.fields = [.colors] ∧ Field.colors.isColorList = true ∧
      toLower "C" ∈ SearchKey.color.spellings ∧
      simicElves.colorList .colors = ["U", "G"].map some ∧ ["U", "G"].Nodup ∧ "Simic" ≠ "" ∧
      (Term.ofKey "C" "Simic" (some .eq)).finds simicElves = true ∧
      Term.parse ("C" ++ "=" ++ "Simic") = Term.ofKey "C" "Simic" (some .eq) := by
  have hspelling : toLower "C" ∈ SearchKey.color.spellings := by decide
  have hentries : simicElves.colorList .colors = ["U", "G"].map some := rfl
  obtain ⟨hiff, _, hparse⟩ :=
    finds_exactly_iff rfl rfl hspelling "Simic" hentries (by decide : ["U", "G"].Nodup)
  have hinclude : (Term.ofKey "C" "Simic" (some .ge)).finds simicElves = true := by decide
  have hwithin : (Term.ofKey "C" "Simic" (some .le)).finds simicElves = true := by decide
  exact ⟨rfl, rfl, hspelling, hentries, by decide, by decide, hiff.2 ⟨hinclude, hwithin⟩,
    (hparse (by decide)).1⟩

/-- If the same letters of colors occur in two values, and neither names a combination of colors, the
terms for them are not dropped and find the same rows, under every comparison and without one. -/
theorem finds_of_same_letters {key : SearchKey} {field : Field} (hfield : key.fields = [field])
    (hcolor : field.isColorList = true) {spelling : String}
    (hspelling : toLower spelling ∈ key.spellings) {value other : String}
    (hvalue : toLower value ∉ Color.combinationNames)
    (hother : toLower other ∉ Color.combinationNames)
    (hletters : ∀ color : Color,
      color.letter ∈ (lowerAscii value).toList ↔ color.letter ∈ (lowerAscii other).toList)
    (comparison : Option Comparison) :
    (Term.ofKey spelling value comparison).predicate?.isSome = true ∧
      (Term.ofKey spelling other comparison).predicate?.isSome = true ∧
      ∀ row, (Term.ofKey spelling value comparison).finds row =
        (Term.ofKey spelling other comparison).finds row := by
  have hsearch (value : String) :=
    Term.predicate_color hfield hcolor hspelling value comparison
  have hcolors := Color.parse_perm_of_same_letters hvalue hother hletters
  refine ⟨by rw [hsearch]; rfl, by rw [hsearch]; rfl, fun row => ?_⟩
  rw [Term.finds_of_predicate (hsearch value), Term.finds_of_predicate (hsearch other),
    SearchKey.selects_color_search_of_perm row hcolors]

/-- The letters of green and blue find the same rows in either order, repeated, in either case and among
others. -/
theorem finds_of_same_letters_blue_green :
    SearchKey.identity.fields = [.colorIdentity] ∧ Field.colorIdentity.isColorList = true ∧
      toLower "ID" ∈ SearchKey.identity.spellings ∧ toLower "gU" ∉ Color.combinationNames ∧
      toLower "u-xG, u" ∉ Color.combinationNames ∧
      (∀ color : Color,
        color.letter ∈ (lowerAscii "gU").toList ↔ color.letter ∈ (lowerAscii "u-xG, u").toList) ∧
      (Term.ofKey "ID" "gU" (some .le)).predicate?.isSome = true ∧
      ∀ row, (Term.ofKey "ID" "gU" (some .le)).finds row =
        (Term.ofKey "ID" "u-xG, u" (some .le)).finds row := by
  have hspelling : toLower "ID" ∈ SearchKey.identity.spellings := by decide
  have hvalue : toLower "gU" ∉ Color.combinationNames := by decide
  have hother : toLower "u-xG, u" ∉ Color.combinationNames := by decide
  have hletters : ∀ color : Color,
      color.letter ∈ (lowerAscii "gU").toList ↔ color.letter ∈ (lowerAscii "u-xG, u").toList := by
    intro color
    cases color <;> decide
  obtain ⟨hpresent, _, hfinds⟩ :=
    finds_of_same_letters rfl rfl hspelling hvalue hother hletters (some .le)
  exact ⟨rfl, rfl, hspelling, hvalue, hother, hletters, hpresent, hfinds⟩

end CardCatalog
