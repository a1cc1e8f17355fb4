import CardCatalog.Catalog.Evaluate
import CardCatalog.Proofs.Query.Meaning
import CardCatalog.Proofs.Query.Term
import CardCatalog.Proofs.Text.Trim
import Mathlib.Data.List.Nodup

/-!
# The leaves of compiled predicates

The constraints of a compiled predicate suit the fields they stand on: phrases are searched in
fields of running text, as escaped patterns; colors in color lists; numbers in fields that hold
numbers; and remainders are those of a division by two (`compile_constraints`). Composing predicates
keeps their constraints, so this is a matter of single terms, and a term asks about the fields of its
key only (`search_build`).
-/

namespace CardCatalog

open CardCatalog.Text

/-! ## The constraints of composed predicates -/

namespace Predicate

/-- The constraints of some predicates and of others together. -/
theorem constraints_of_append (ps qs : List Predicate) :
    constraintsOf (ps ++ qs) = constraintsOf ps ++ constraintsOf qs := by
  induction ps with
  | nil => rfl
  | cons p ps ih => rw [List.cons_append, constraintsOf, constraintsOf, ih, List.append_assoc]

/-- The constraints of several predicates are those of each in turn. -/
theorem mem_constraints_of {constraint : Constraint} {ps : List Predicate} :
    constraint ∈ constraintsOf ps ↔ ∃ p ∈ ps, constraint ∈ p.constraints := by
  induction ps with
  | nil => simp [constraintsOf]
  | cons p ps ih => simp [constraintsOf, ih]

/-- A predicate has the constraints of the parts that it adds to a conjunction. -/
theorem constraints_of_conjuncts (p : Predicate) : constraintsOf p.conjuncts = p.constraints := by
  cases p with
  | all parts => rw [conjuncts, constraints]
  | test _ | any _ | not _ => exact List.append_nil _

/-- A predicate has the constraints of the parts that it adds to a disjunction. -/
theorem constraints_of_disjuncts (p : Predicate) : constraintsOf p.disjuncts = p.constraints := by
  cases p with
  | any parts => rw [disjuncts, constraints]
  | test _ | all _ | not _ => exact List.append_nil _

/-- A conjunction without a superfluous node has the constraints of its parts. -/
theorem constraints_conjoin (parts : List Predicate) :
    (conjoin parts).constraints = constraintsOf parts := by
  match parts with
  | [] => rfl
  | [p] => exact (List.append_nil _).symm
  | p :: q :: ps => rfl

/-- A disjunction without a superfluous node has the constraints of its parts. -/
theorem constraints_disjoin (parts : List Predicate) :
    (disjoin parts).constraints = constraintsOf parts := by
  match parts with
  | [] => rfl
  | [p] => exact (List.append_nil _).symm
  | p :: q :: ps => rfl

/-- Merging parts keeps their constraints if it does so for each part. -/
theorem constraints_of_flat_map {merge : Predicate → List Predicate}
    (h : ∀ p, constraintsOf (merge p) = p.constraints) (parts : List Predicate) :
    constraintsOf (parts.flatMap merge) = constraintsOf parts := by
  induction parts with
  | nil => rfl
  | cons p ps ih => rw [List.flatMap_cons, constraints_of_append, h, ih, constraintsOf]

/-- A conjunction has the constraints of its parts. -/
theorem constraints_all_of (parts : List Predicate) :
    (allOf parts).constraints = constraintsOf parts := by
  rw [allOf, constraints_conjoin, constraints_of_flat_map constraints_of_conjuncts]

/-- A disjunction has the constraints of its parts. -/
theorem constraints_any_of (parts : List Predicate) :
    (anyOf parts).constraints = constraintsOf parts := by
  rw [anyOf, constraints_disjoin, constraints_of_flat_map constraints_of_disjuncts]

/-- A negation has the constraints of what it negates. -/
theorem constraints_negate (p : Predicate) : p.negate.constraints = p.constraints := by
  cases p <;> rfl

end Predicate

/-! ## The constraints of terms -/

namespace Color

/-- The colors of a named combination do not repeat. -/
theorem nodup_of_combination {name : String} {colors : List Color}
    (h : ofCombination? name = some colors) : colors.Nodup := by
  have hcombinations : ∀ combination ∈ combinations, combination.2.Nodup := by decide
  obtain ⟨before, after, heq, _⟩ := List.lookup_eq_some_iff.1 h
  exact hcombinations (name, colors) (by rw [heq]; simp)

/-- Adding a color that a list lacks keeps its colors distinct. -/
theorem nodup_add_new {colors : List Color} (h : colors.Nodup) (color : Color) :
    (addNew colors color).Nodup := by
  rw [addNew]
  split
  · exact h
  · rename_i hnew
    exact h.append (List.nodup_singleton color) (by simpa using hnew)

/-- Adding colors one by one keeps the colors of a list distinct. -/
theorem nodup_foldl_add_new (added : List Color) {colors : List Color} (h : colors.Nodup) :
    (added.foldl addNew colors).Nodup := by
  induction added generalizing colors with
  | nil => exact h
  | cons color added ih => exact ih (nodup_add_new h color)

/-- The colors that a value stands for do not repeat. -/
theorem nodup_parse (value : String) : (parse value).Nodup := by
  rw [parse]
  cases hnamed : ofCombination? (toLower value) with
  | some colors => exact nodup_of_combination hnamed
  | none => exact nodup_foldl_add_new _ List.nodup_nil

end Color

/-- The fields of running text, which phrases are searched in. -/
def phraseFields : List Field :=
  [.typeLine, .oracleText, .name, .flavorName, .keywords]

/-- The fields that hold numbers. -/
def numberFields : List Field :=
  [.manaValue, .power, .toughness, .loyalty]

/-- The constraint suits the field it stands on, and asks for something that a term can ask for. -/
def Constraint.IsSearch : Constraint → Prop
  | .matchesPattern field pattern => field ∈ phraseFields ∧ ∃ text, pattern = Pattern.escape text
  | .equals field _ => field.isColorList = false
  | .oneOf field _ => field.isColorList = false
  | .colorsInclude field colors => field.isColorList = true ∧ colors ≠ [] ∧ colors.Nodup
  | .colorsWithin field colors => field.isColorList = true ∧ colors ≠ [] ∧ colors.Nodup
  | .colorsExactly field colors => field.isColorList = true ∧ colors ≠ [] ∧ colors.Nodup
  | .noColors field => field.isColorList = true
  | .compare field _ _ => field ∈ numberFields
  | .modulo field divisor remainder =>
      field ∈ numberFields ∧ divisor = 2 ∧ (remainder = 0 ∨ remainder = 1)

/-- Every constraint of the predicate suits its field. -/
def Predicate.IsSearch (p : Predicate) : Prop :=
  ∀ constraint ∈ p.constraints, constraint.IsSearch

/-- The field that a constraint stands on. -/
def Constraint.field : Constraint → Field
  | .matchesPattern field _ => field
  | .equals field _ => field
  | .oneOf field _ => field
  | .colorsInclude field _ => field
  | .colorsWithin field _ => field
  | .colorsExactly field _ => field
  | .noColors field => field
  | .compare field _ _ => field
  | .modulo field _ _ => field

/-- The constraint stands on one of the fields, and suits it. -/
def Constraint.SearchesIn (fields : List Field) (constraint : Constraint) : Prop :=
  constraint.field ∈ fields ∧ constraint.IsSearch

namespace Predicate

/-- Every constraint of the predicate has the property. -/
def Each (P : Constraint → Prop) (p : Predicate) : Prop :=
  ∀ constraint ∈ p.constraints, P constraint

variable {P : Constraint → Prop}

/-- A single constraint that has the property. -/
theorem Each.test {constraint : Constraint} (h : P constraint) : (test constraint).Each P := by
  intro other hother
  obtain rfl : other = constraint := List.mem_singleton.1 hother
  exact h

/-- The constraints of a negation have the property if those of what it negates do. -/
theorem Each.negate {p : Predicate} (h : p.Each P) : p.negate.Each P := by
  intro constraint hmem
  rw [constraints_negate] at hmem
  exact h constraint hmem

/-- The constraints of a conjunction have the property if those of its parts do. -/
theorem Each.all_of {parts : List Predicate} (h : ∀ p ∈ parts, p.Each P) :
    (allOf parts).Each P := by
  intro constraint hmem
  rw [constraints_all_of, mem_constraints_of] at hmem
  obtain ⟨p, hp, hmem⟩ := hmem
  exact h p hp constraint hmem

/-- The constraints of a disjunction have the property if those of its parts do. -/
theorem Each.any_of {parts : List Predicate} (h : ∀ p ∈ parts, p.Each P) :
    (anyOf parts).Each P := by
  intro constraint hmem
  rw [constraints_any_of, mem_constraints_of] at hmem
  obtain ⟨p, hp, hmem⟩ := hmem
  exact h p hp constraint hmem

end Predicate

namespace SearchKey

/-- The fields that a key asks about. -/
def fields : SearchKey → List Field
  | .color => [.colors]
  | .identity => [.colorIdentity]
  | .type => [.typeLine]
  | .oracle => [.oracleText]
  | .name => [.name, .flavorName]
  | .flavorName => [.flavorName]
  | .manaValue => [.manaValue]
  | .power => [.power]
  | .toughness => [.toughness]
  | .loyalty => [.loyalty]
  | .set => [.set]
  | .rarity => [.rarity]
  | .keyword => [.keywords]
  | .layout => [.layout]
  | .exclude => [.layout, .typeLine]
  | .language => [.lang]

/-! ## What a numeric search is -/

/-- What follows a comparison is a part of the text. -/
theorem infix_of_strip (relation : Comparison) (cs : List Char) : (relation.strip? cs).getD cs <:+: cs := by
  cases hstrip : relation.strip? cs with
  | none => exact List.infix_rfl
  | some rest =>
      rw [Comparison.strip_eq_some_iff] at hstrip
      rw [hstrip]
      exact (List.suffix_append _ _).isInfix

/-- A comparison with a value is one of integers, or one of the texts that stand in their place. -/
theorem compared_to_cases {field : Field} {comparison : Comparison} {value : String} {p : Predicate}
    (hp : comparedTo? field comparison value = some p) :
    (∃ bound, p = .test (.compare field comparison bound)) ∨
      p = equality field value (some comparison) := by
  unfold comparedTo? at hp
  split at hp
  · obtain ⟨bound, _, rfl⟩ := Option.map_eq_some_iff.1 hp
    exact .inl ⟨bound, rfl⟩
  · split at hp
    · exact .inr (Option.some.inj hp).symm
    · exact .inr (Option.some.inj hp).symm
    · exact absurd hp (by simp)

/-- A parity is one of the remainders of a division by two. -/
theorem parity_cases {field : Field} {value : String} {p : Predicate}
    (hp : parity? field value = some p) :
    ∃ remainder, (remainder = 0 ∨ remainder = 1) ∧ p = .test (.modulo field 2 remainder) := by
  rw [parity?] at hp
  split at hp
  · exact ⟨0, .inl rfl, (Option.some.inj hp).symm⟩
  · split at hp
    · exact ⟨1, .inr rfl, (Option.some.inj hp).symm⟩
    · exact absurd hp (by simp)

/-- A numeric search asks for a parity, or compares with an integer, or compares with a part of the value
as a text. -/
theorem numeric_search_cases {field : Field} {value : String} {comparison : Option Comparison}
    {p : Predicate} (hp : numericSearch? field value comparison = some p) :
    (∃ remainder, (remainder = 0 ∨ remainder = 1) ∧ p = .test (.modulo field 2 remainder)) ∨
      (∃ relation bound, p = .test (.compare field relation bound)) ∨
      ∃ relation text, text.toList <:+: value.toList ∧ p = equality field text (some relation) := by
  unfold numericSearch? at hp
  split at hp
  · rename_i parity hparity
    obtain rfl := Option.some.inj hp
    exact .inl (parity_cases hparity)
  · split at hp
    · rename_i relation
      rcases compared_to_cases hp with ⟨bound, rfl⟩ | rfl
      · exact .inr (.inl ⟨relation, bound, rfl⟩)
      · exact .inr (.inr ⟨relation, value, List.infix_rfl, rfl⟩)
    · split at hp
      · rename_i relation bound _
        exact .inr (.inl ⟨relation, bound, (Option.some.inj hp).symm⟩)
      · rename_i relation _
        rcases compared_to_cases hp with ⟨bound, rfl⟩ | rfl
        · exact .inr (.inl ⟨relation, bound, rfl⟩)
        · refine .inr (.inr ⟨relation, _, ?_, rfl⟩)
          rw [String.toList_ofList]
          exact (infix_of_strip _ _).trans (infix_of_trim _)

/-! ## The constraints of a key -/

section

variable {field : Field} {fields : List Field} (hfield : field ∈ fields)
include hfield

/-- A phrase is searched in a field of running text. -/
theorem search_substring (h : field ∈ phraseFields) (text : String) :
    (substring field text).Each (Constraint.SearchesIn fields) :=
  .test ⟨hfield, h, text, rfl⟩

/-- Colors are searched in a color list. -/
theorem search_color (h : field.isColorList = true) (value : String)
    (comparison : Option Comparison) :
    (colorSearch field value comparison).Each (Constraint.SearchesIn fields) := by
  unfold colorSearch
  dsimp only
  split
  · exact .test ⟨hfield, h⟩
  · rename_i hempty
    have hcolors : Color.parse value ≠ [] := fun heq => hempty (by rw [heq]; rfl)
    split
    all_goals exact .test ⟨hfield, h, hcolors, Color.nodup_parse value⟩

/-- A text is compared with a field that holds text. -/
theorem search_equality (h : field.isColorList = false) (value : String)
    (comparison : Option Comparison) :
    (equality field value comparison).Each (Constraint.SearchesIn fields) := by
  have hequals : (Predicate.test (.equals field value)).Each (Constraint.SearchesIn fields) :=
    .test ⟨hfield, h⟩
  rw [equality]
  split
  · exact hequals.negate
  · exact hequals

omit hfield in
/-- A field that holds numbers holds text. -/
theorem color_list_of_number_field (h : field ∈ numberFields) : field.isColorList = false := by
  revert field
  decide

/-- A numeric search asks for a number, or for a text that stands in the place of one. -/
theorem search_numeric (h : field ∈ numberFields) {value : String}
    {comparison : Option Comparison} {p : Predicate}
    (hp : numericSearch? field value comparison = some p) :
    p.Each (Constraint.SearchesIn fields) := by
  rcases numeric_search_cases hp with ⟨remainder, hremainder, rfl⟩ | ⟨relation, bound, rfl⟩ |
    ⟨relation, text, _, rfl⟩
  · exact .test ⟨hfield, h, rfl, hremainder⟩
  · exact .test ⟨hfield, h⟩
  · exact search_equality hfield (color_list_of_number_field h) text _

end

/-- A rarity search asks for rarities. -/
theorem search_rarity (value : String) (comparison : Option Comparison) :
    (raritySearch value comparison).Each (Constraint.SearchesIn [.rarity]) := by
  have hrarity : Field.rarity ∈ [Field.rarity] := List.mem_singleton_self _
  rw [raritySearch]
  split
  · exact search_equality hrarity rfl _ _
  · split
    case h_5 => exact search_equality hrarity rfl _ _
    all_goals exact .test ⟨hrarity, rfl⟩

/-- The exclusion asks for a layout and for a type line. -/
theorem search_exclusion {value : String} {p : Predicate} (hp : exclusion? value = some p) :
    p.Each (Constraint.SearchesIn [.layout, .typeLine]) := by
  rw [exclusion?] at hp
  split at hp
  · obtain rfl := Option.some.inj hp
    refine .all_of fun q hq => ?_
    rcases List.mem_pair.1 hq with rfl | rfl
    all_goals exact .negate (.test ⟨by decide, rfl⟩)
  · exact absurd hp (by simp)

/-- What a key builds asks about the fields of the key, and suits them. -/
theorem search_build {key : SearchKey} {value : String} {comparison : Option Comparison}
    {p : Predicate} (hp : key.build? value comparison = some p) :
    p.Each (Constraint.SearchesIn key.fields) := by
  cases key with
  | color | identity =>
      obtain rfl := Option.some.inj hp
      exact search_color (List.mem_singleton_self _) rfl value comparison
  | type | oracle | flavorName | keyword =>
      obtain rfl := Option.some.inj hp
      exact search_substring (List.mem_singleton_self _) (by decide) value
  | name =>
      obtain rfl := Option.some.inj hp
      refine .any_of fun q hq => ?_
      rcases List.mem_pair.1 hq with rfl | rfl
      all_goals exact search_substring (by decide) (by decide) value
  | manaValue | power | toughness | loyalty =>
      exact search_numeric (List.mem_singleton_self _) (by decide) hp
  | set | layout | language =>
      obtain rfl := Option.some.inj hp
      exact search_equality (List.mem_singleton_self _) rfl (toLower value) comparison
  | rarity =>
      obtain rfl := Option.some.inj hp
      exact search_rarity value comparison
  | exclude => exact search_exclusion hp

end SearchKey

/-- A term is what its key builds of its value, negated if the term is. -/
theorem build_term_eq_some {token : String} {p : Predicate} (h : buildTerm token = some p) :
    ∃ (key : SearchKey) (built : Predicate),
      key.build? (Term.parse token).value (Term.parse token).comparison = some built ∧
        (p = built ∨ p = built.negate) := by
  -- A term without a key searches names; from there on both kinds of term are built alike.
  have hkey : ∃ key : SearchKey, (if key.accepts (Term.parse token).value then do
      let built ← key.build? (Term.parse token).value (Term.parse token).comparison
      some (if (Term.parse token).negated then built.negate else built)
      else none) = some p := by
    rw [buildTerm, Term.predicate?] at h
    split at h
    all_goals
      obtain ⟨key, _, hkey⟩ := Option.bind_eq_some_iff.1 h
      exact ⟨key, hkey⟩
  obtain ⟨key, hkey⟩ := hkey
  split at hkey
  · obtain ⟨built, hbuilt, hnegated⟩ := Option.bind_eq_some_iff.1 hkey
    refine ⟨key, built, hbuilt, ?_⟩
    split at hnegated
    · exact .inr (Option.some.inj hnegated).symm
    · exact .inl (Option.some.inj hnegated).symm
  · exact absurd hkey (by simp)

/-- Suiting one's fields is a matter of the terms. -/
theorem Predicate.is_compositional_is_search : IsCompositional Predicate.IsSearch where
  term token p h := by
    obtain ⟨key, built, hbuilt, hp⟩ := build_term_eq_some h
    have hsearch : built.IsSearch := fun constraint hmem =>
      (SearchKey.search_build hbuilt constraint hmem).2
    rcases hp with rfl | rfl
    · exact hsearch
    · exact Each.negate hsearch
  all_of parts _ h := Each.all_of h
  any_of parts _ h := Each.any_of h
  negate p h := Each.negate h

/-- Every constraint of the predicate of a query suits the field it stands on. -/
theorem compile_constraints (query : String) : (compile query).IsSearch := by
  rcases Predicate.is_compositional_is_search.compile_query query with h | h
  · rw [h]
    exact fun constraint hmem => absurd hmem (by simp [Predicate.matchAll, Predicate.constraints,
      Predicate.constraintsOf])
  · exact h

end CardCatalog
