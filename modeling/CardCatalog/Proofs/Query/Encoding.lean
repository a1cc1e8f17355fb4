import CardCatalog.Proofs.Json.Value
import CardCatalog.Query.Encoding
import Mathlib.Logic.Relation

/-!
# Predicates read back from JSON

A predicate is read from an object by the kind that stands under `op` and by the parts that the kind
declares (`of_json_object`), and from an array as from the object with these parts in their order
(`of_json_array`). So it makes no difference in which order the members of an object stand, nor
whether there are others that the kind does not declare, at any depth (`SameReading.of_rearranged`);
and what is read from the JSON value of a predicate, rearranged or not, is that predicate
(`of_json_rearranged`).
-/

namespace CardCatalog

/-! ## What is read from an object and from an array -/

namespace Predicate

/-- The names of the parts of a kind of predicate, in the order in which they are written. -/
def partNames (kind : String) : Option (List String) :=
  if kind = "and" then some ["all"]
  else if kind = "or" then some ["any"]
  else if kind = "not" then some ["inner"]
  else Constraint.partNames kind

/-- The keys that an object of a kind declares: the one that names the kind, and those of its parts. -/
def declaredKeys (kind : String) : List String :=
  "op" :: (partNames kind).getD []

/-- Read a list of predicates. -/
def listOf? (value : Json) : Option (List Predicate) :=
  value.asArray?.bind fun items => items.mapM ofJson?

/-- Read the parts of a kind of predicate. -/
def ofParts? (kind : String) (parts : List (String × Json)) : Option Predicate :=
  if kind = "and" then ((parts.lookup "all").bind listOf?).map .all
  else if kind = "or" then ((parts.lookup "any").bind listOf?).map .any
  else if kind = "not" then ((parts.lookup "inner").bind ofJson?).map .not
  else (Constraint.ofParts? kind parts).map .test

/-- A list of predicates is read item by item. -/
theorem list_of_json_eq_map_m (items : List Json) : listOfJson? items = items.mapM ofJson? := by
  induction items with
  | nil => rw [listOfJson?, List.mapM_nil]; rfl
  | cons item items ih => rw [listOfJson?, ih, List.mapM_cons]; rfl

/-- The predicate under a key is read from the value that the key is looked up to. -/
theorem under_eq (key : String) (members : List (String × Json)) :
    under? key members = (members.lookup key).bind ofJson? := by
  induction members with
  | nil => rw [under?]; rfl
  | cons member members ih =>
      obtain ⟨other, value⟩ := member
      rw [under?, ih]
      by_cases heq : other = key
      · simp [heq]
      · rw [if_neg heq, lookup_cons_of_ne (Ne.symm heq)]

/-- The predicates under a key are read from the value that the key is looked up to. -/
theorem list_under_eq (key : String) (members : List (String × Json)) :
    listUnder? key members = (members.lookup key).bind listOf? := by
  induction members with
  | nil => rw [listUnder?]; rfl
  | cons member members ih =>
      obtain ⟨other, value⟩ := member
      have hread : listUnder? key ((other, value) :: members) =
          if other = key then listOf? value else listUnder? key members := by
        cases value with
        | array items =>
            rw [listUnder?, list_of_json_eq_map_m]
            rfl
        | _ =>
            rw [listUnder?]
            · rfl
            · simp
      rw [hread, ih]
      by_cases heq : other = key
      · simp [heq]
      · rw [if_neg heq, lookup_cons_of_ne (Ne.symm heq)]

/-- An object is read as the parts of the kind that it names. -/
theorem of_json_object (members : List (String × Json)) :
    ofJson? (.object members) =
      ((members.lookup "op").bind Json.asText?).bind fun kind => ofParts? kind members := by
  rw [ofJson?]
  split
  · rename_i kind hkind
    rw [hkind, list_under_eq, list_under_eq, under_eq]
    rfl
  · rename_i hkind
    cases hop : members.lookup "op" with
    | none => rfl
    | some value =>
        cases value with
        | text kind => exact absurd hop (hkind kind)
        | _ => rfl

/-- The items after a kind that joins other predicates are no constraint. -/
theorem of_items_eq_none {kind : String} (h : Constraint.partNames kind = none) (parts : List Json) :
    ofJson?.ofItems? kind parts = none := by
  rw [ofJson?.ofItems?, h]
  rfl

/-- An array that names a kind is read as the object with its items under the names of the parts. -/
theorem of_json_array (kind : String) (parts : List Json) :
    ofJson? (.array (.text kind :: parts)) =
      (partNames kind).bind fun names =>
        if names.length = parts.length then ofParts? kind (names.zip parts) else none := by
  by_cases hjoins : kind = "and" ∨ kind = "or" ∨ kind = "not"
  · have hitems : ∀ parts, ofJson?.ofItems? kind parts = none :=
      of_items_eq_none (by rcases hjoins with rfl | rfl | rfl <;> decide)
    match parts with
    | [] | _ :: _ :: _ =>
        rcases hjoins with rfl | rfl | rfl <;> simp [ofJson?, hitems, partNames]
    | [part] =>
        rcases hjoins with rfl | rfl | rfl
        · cases part <;>
            simp [ofJson?, hitems, partNames, ofParts?, listOf?, Json.asArray?, list_of_json_eq_map_m]
        · cases part <;>
            simp [ofJson?, hitems, partNames, ofParts?, listOf?, Json.asArray?, list_of_json_eq_map_m]
        · simp [ofJson?, partNames, ofParts?]
  · obtain ⟨hand, hor, hnot⟩ : kind ≠ "and" ∧ kind ≠ "or" ∧ kind ≠ "not" := by simpa using hjoins
    have hread : ofJson? (.array (.text kind :: parts)) = (ofJson?.ofItems? kind parts).map .test := by
      match parts with
      | [] | _ :: _ :: _ => simp [ofJson?]
      | [part] => cases part <;> simp [ofJson?, hand, hor, hnot]
    rw [hread, ofJson?.ofItems?, partNames, if_neg hand, if_neg hor, if_neg hnot]
    cases Constraint.partNames kind with
    | none => rfl
    | some names =>
        by_cases hlength : names.length = parts.length
        · simp [hlength, ofParts?, hand, hor, hnot]
        · simp [hlength]

/-- An array that does not start with the name of a kind is no predicate. -/
theorem of_json_array_eq_none {items : List Json} (h : items.head?.bind Json.asText? = none) :
    ofJson? (.array items) = none := by
  match items with
  | [] => rw [ofJson?] <;> simp
  | .text kind :: parts => exact absurd h (by simp [Json.asText?])
  | .null :: _ | .bool _ :: _ | .number _ :: _ | .array _ :: _ | .object _ :: _ | .unusable :: _ =>
      rw [ofJson?] <;> simp

end Predicate

/-! ## Values that are read alike -/

/-- Whatever a part of a predicate may be, it is read alike from the two values. -/
structure SameReading (value other : Json) : Prop where
  text : value.asText? = other.asText?
  name : value.asName? = other.asName?
  texts : value.asTexts? = other.asTexts?
  int64 : value.asInt64? = other.asInt64?
  colors : Color.listOfJson? value = Color.listOfJson? other
  predicate : Predicate.ofJson? value = Predicate.ofJson? other
  predicates : Predicate.listOf? value = Predicate.listOf? other

namespace SameReading

variable {value other : Json}

/-- A value is read as itself. -/
protected theorem refl (value : Json) : SameReading value value :=
  ⟨rfl, rfl, rfl, rfl, rfl, rfl, rfl⟩

/-- What a key is looked up to is read as itself. -/
theorem rel_refl (found : Option Json) : Option.Rel SameReading found found := by
  cases found with
  | none => exact .none
  | some value => exact .some (.refl value)

/-- Values that are read alike item by item are read alike as a list. -/
theorem map_m_eq {α : Type} {read : Json → Option α} {items others : List Json}
    (h : List.Forall₂ (fun value other => read value = read other) items others) :
    items.mapM read = others.mapM read := by
  induction h with
  | nil => rfl
  | cons hfirst _ ih => rw [List.mapM_cons, List.mapM_cons, hfirst, ih]

/-- Values that are read alike name the same field. -/
theorem field (h : SameReading value other) : Field.ofJson? value = Field.ofJson? other := by
  rw [Field.ofJson?, Field.ofJson?, h.name]

/-- Values that are read alike name the same comparison. -/
theorem comparison (h : SameReading value other) :
    Comparison.ofJson? value = Comparison.ofJson? other := by
  rw [Comparison.ofJson?, Comparison.ofJson?, h.name]

/-- Look-ups that find values that are read alike lead to values that are read alike. -/
theorem of_rel {found other : Option Json} (h : Option.Rel SameReading found other) :
    SameReading (found.getD .null) (other.getD .null) := by
  cases h with
  | none => exact .refl _
  | some hvalue => exact hvalue

/-- Look-ups that find values that are read alike are read alike. -/
theorem bind_eq {α : Type} {read : Json → Option α}
    (hread : ∀ {value other}, SameReading value other → read value = read other)
    {found other : Option Json} (h : Option.Rel SameReading found other) :
    found.bind read = other.bind read := by
  cases h with
  | none => rfl
  | some hvalue => exact hread hvalue

/-- Parts that are looked up to values that are read alike make up the same constraint. -/
theorem constraint_of_parts {kind : String} {names : List String}
    (hnames : Constraint.partNames kind = some names) {parts others : List (String × Json)}
    (h : ∀ key ∈ names, Option.Rel SameReading (parts.lookup key) (others.lookup key)) :
    Constraint.ofParts? kind parts = Constraint.ofParts? kind others := by
  have hpart := fun key hkey => of_rel (h key hkey)
  unfold Constraint.partNames at hnames
  split_ifs at hnames with hmatches hequals honeof hcolors hnone hcompare hmodulo
  all_goals
    obtain rfl := Option.some.inj hnames
    have hfield := (hpart "field" (by simp)).field
  · subst hmatches
    simp [Constraint.ofParts?, hfield, (hpart "pattern" (by simp)).text]
  · subst hequals
    simp [Constraint.ofParts?, hfield, (hpart "value" (by simp)).text]
  · subst honeof
    simp [Constraint.ofParts?, hfield, (hpart "values" (by simp)).texts]
  · have hlist := (hpart "colors" (by simp)).colors
    rcases hcolors with rfl | rfl | rfl <;> simp [Constraint.ofParts?, hfield, hlist]
  · subst hnone
    simp [Constraint.ofParts?, hfield]
  · subst hcompare
    simp [Constraint.ofParts?, hfield, (hpart "cmp" (by simp)).comparison,
      (hpart "value" (by simp)).int64]
  · subst hmodulo
    simp [Constraint.ofParts?, hfield, (hpart "divisor" (by simp)).int64,
      (hpart "remainder" (by simp)).int64]

/-- A kind without parts is no constraint. -/
theorem constraint_of_parts_eq_none {kind : String} (hnames : Constraint.partNames kind = none)
    (parts : List (String × Json)) : Constraint.ofParts? kind parts = none := by
  unfold Constraint.partNames at hnames
  split_ifs at hnames with hmatches hequals honeof hcolors hnone hcompare hmodulo
  simp only [not_or] at hcolors
  simp [Constraint.ofParts?, hmatches, hequals, honeof, hcolors, hnone, hcompare, hmodulo]

/-- Parts that are looked up to values that are read alike make up the same predicate. -/
theorem of_parts {kind : String} {parts others : List (String × Json)}
    (h : ∀ names, Predicate.partNames kind = some names →
      ∀ key ∈ names, Option.Rel SameReading (parts.lookup key) (others.lookup key)) :
    Predicate.ofParts? kind parts = Predicate.ofParts? kind others := by
  unfold Predicate.partNames at h
  unfold Predicate.ofParts?
  split_ifs at h ⊢ with hand hor hnot
  · rw [bind_eq SameReading.predicates (h _ rfl "all" (by simp))]
  · rw [bind_eq SameReading.predicates (h _ rfl "any" (by simp))]
  · rw [bind_eq SameReading.predicate (h _ rfl "inner" (by simp))]
  · cases hnames : Constraint.partNames kind with
    | none => rw [constraint_of_parts_eq_none hnames, constraint_of_parts_eq_none hnames]
    | some names => rw [constraint_of_parts hnames (h names hnames)]

/-- Objects of the same kind, whose declared parts are read alike, are read alike. -/
protected theorem object {members others : List (String × Json)}
    (hname : (Json.object members).asName? = (Json.object others).asName?)
    (hkind : (members.lookup "op").bind Json.asText? = (others.lookup "op").bind Json.asText?)
    (h : ∀ kind, (members.lookup "op").bind Json.asText? = some kind →
      ∀ names, Predicate.partNames kind = some names →
        ∀ key ∈ names, Option.Rel SameReading (members.lookup key) (others.lookup key)) :
    SameReading (.object members) (.object others) where
  text := rfl
  name := hname
  texts := rfl
  int64 := rfl
  colors := rfl
  predicate := by
    rw [Predicate.of_json_object, Predicate.of_json_object, ← hkind]
    cases hread : (members.lookup "op").bind Json.asText? with
    | none => rfl
    | some kind => exact of_parts (h kind hread)
  predicates := rfl

/-- Parts that are read alike one by one stand under the same names. -/
theorem zip {parts others : List Json} (h : List.Forall₂ SameReading parts others)
    (names : List String) :
    List.Forall₂ (fun m n => m.1 = n.1 ∧ SameReading m.2 n.2) (names.zip parts)
      (names.zip others) := by
  induction h generalizing names with
  | nil => simp
  | cons hfirst _ ih =>
      cases names with
      | nil => exact .nil
      | cons name names => exact .cons ⟨rfl, hfirst⟩ (ih names)

/-- Arrays that are read alike item by item are read alike. -/
protected theorem array {items others : List Json} (h : List.Forall₂ SameReading items others) :
    SameReading (.array items) (.array others) where
  text := rfl
  name := rfl
  texts := map_m_eq (h.imp fun _ _ h => h.text)
  int64 := rfl
  colors := map_m_eq (h.imp fun _ _ h => by rw [Color.ofJson?, Color.ofJson?, h.name])
  predicate := by
    cases h with
    | nil => rfl
    | @cons first other parts others hfirst hrest =>
        cases hkind : first.asText? with
        | none =>
            have hfirstKind : (first :: parts).head?.bind Json.asText? = none := hkind
            have hotherKind : (other :: others).head?.bind Json.asText? = none := by
              rw [List.head?_cons, Option.bind_some, ← hfirst.text, hkind]
            rw [Predicate.of_json_array_eq_none hfirstKind, Predicate.of_json_array_eq_none hotherKind]
        | some kind =>
            obtain rfl := Json.eq_text_of_as_text hkind
            obtain rfl := Json.eq_text_of_as_text (hfirst.text ▸ hkind)
            rw [Predicate.of_json_array, Predicate.of_json_array, hrest.length_eq]
            refine Option.bind_congr fun names _ => ?_
            rw [of_parts fun _ _ key _ => lookup_rel (zip hrest names) key]
  predicates := map_m_eq (h.imp fun _ _ h => h.predicate)

end SameReading

/-! ## Rearranged values -/

namespace Json

/-- One step of a rearrangement. An object may have its members in another order, if no key occurs
twice, and one that names a kind of predicate may have one more under a key that the kind does not
declare. The same may happen to any value inside. -/
inductive Rearranged : Json → Json → Prop where
  | reorder {members others : List (String × Json)} (hkeys : (members.map Prod.fst).Nodup)
      (h : members.Perm others) : Rearranged (.object members) (.object others)
  | add {members : List (String × Json)} {kind key : String} (value : Json)
      (hkind : members.lookup "op" = some (.text kind))
      (hkey : key ∉ Predicate.declaredKeys kind) :
      Rearranged (.object members) (.object ((key, value) :: members))
  | member {value other : Json} (h : Rearranged value other) (before after : List (String × Json))
      (key : String) :
      Rearranged (.object (before ++ (key, value) :: after)) (.object (before ++ (key, other) :: after))
  | item {value other : Json} (h : Rearranged value other) (before after : List Json) :
      Rearranged (.array (before ++ value :: after)) (.array (before ++ other :: after))

/-- What is rearranged is no `null`, before and after. -/
theorem Rearranged.ne_null {value other : Json} (h : Rearranged value other) :
    value ≠ .null ∧ other ≠ .null := by
  cases h <;> simp

/-- An object is no name unless its only member is `null`. -/
theorem as_name_eq_none {members : List (String × Json)} (h : ∀ name, members ≠ [(name, .null)]) :
    (Json.object members).asName? = none := by
  unfold asName?
  split
  · rename_i heq
    cases heq
  · rename_i name heq
    injection heq with heq
    exact absurd heq (h name)
  · rfl

end Json

/-- One step of a rearrangement makes no difference to what is read. -/
theorem SameReading.of_rearranged {value other : Json} (h : Json.Rearranged value other) :
    SameReading value other := by
  induction h with
  | @reorder members others hkeys h =>
      have hlookup := lookup_of_perm hkeys h
      refine .object ?_ (by rw [hlookup]) fun _ _ _ _ key _ => ?_
      · by_cases hname : ∃ name, members = [(name, .null)]
        · obtain ⟨name, rfl⟩ := hname
          rw [List.singleton_perm.1 h]
        · have hothers : ∀ name, others ≠ [(name, .null)] := by
            rintro name rfl
            exact hname ⟨name, List.perm_singleton.1 h⟩
          rw [Json.as_name_eq_none (not_exists.1 hname), Json.as_name_eq_none hothers]
      · rw [hlookup]
        exact rel_refl _
  | @add members kind key value hkind hkey =>
      obtain ⟨hop, hparts⟩ : key ≠ "op" ∧ key ∉ (Predicate.partNames kind).getD [] := by
        simpa [Predicate.declaredKeys] using hkey
      have hkept {name : String} (hname : name ≠ key) :
          List.lookup name ((key, value) :: members) = members.lookup name :=
        lookup_cons_of_ne hname value members
      refine .object ?_ (by rw [hkept (Ne.symm hop)]) ?_
      · have hmembers : members ≠ [] := by
          rintro rfl
          cases hkind
        rw [Json.as_name_eq_none, Json.as_name_eq_none]
        · rintro name heq
          exact hmembers (List.cons_eq_cons.1 heq).2
        · rintro name rfl
          simp [List.lookup_cons] at hkind
          split at hkind <;> cases hkind
      · intro found hfound names hnames name hname
        obtain rfl : kind = found := by
          rw [hkind] at hfound
          exact Option.some.inj hfound
        rw [hkept]
        · exact rel_refl _
        · rintro rfl
          rw [hnames] at hparts
          exact hparts hname
  | @member value other h before after key ih =>
      have hmembers : List.Forall₂ (fun m n => m.1 = n.1 ∧ SameReading m.2 n.2)
          (before ++ (key, value) :: after) (before ++ (key, other) :: after) :=
        List.rel_append (List.forall₂_same.2 fun m _ => ⟨rfl, .refl m.2⟩)
          (.cons ⟨rfl, ih⟩ (List.forall₂_same.2 fun m _ => ⟨rfl, .refl m.2⟩))
      have hlookup := lookup_rel hmembers
      refine .object ?_ ?_ fun _ _ _ _ name _ => hlookup name
      · rw [Json.as_name_eq_none, Json.as_name_eq_none]
        · intro name heq
          have hmem : (key, other) ∈ [(name, Json.null)] := by simp [← heq]
          exact h.ne_null.2 (Prod.mk.inj (List.mem_singleton.1 hmem)).2
        · intro name heq
          have hmem : (key, value) ∈ [(name, Json.null)] := by simp [← heq]
          exact h.ne_null.1 (Prod.mk.inj (List.mem_singleton.1 hmem)).2
      · exact bind_eq SameReading.text (hlookup "op")
  | item _ before after ih =>
      exact .array (List.rel_append (List.forall₂_same.2 fun item _ => .refl item)
        (.cons ih (List.forall₂_same.2 fun item _ => .refl item)))

/-! ## Predicates read back -/

namespace Constraint

/-- A field is read back from its name. -/
theorem field_of_label (field : Field) : Field.ofJson? (.text field.label) = some field := by
  cases field <;> decide

/-- A comparison is read back from its symbol. -/
theorem comparison_of_symbol (comparison : Comparison) :
    Comparison.ofJson? (.text comparison.symbol) = some comparison := by
  cases comparison <;> decide

/-- Colors are read back from their codes. -/
theorem list_of_colors_json (colors : List Color) :
    Color.listOfJson? (colorsJson colors) = some colors := by
  refine map_m_map_eq_some (fun color : Color => .text color.code) Color.ofJson? (fun color => ?_) colors
  cases color <;> decide

/-- A constraint is read back from its members. -/
theorem of_json_members (constraint : Constraint) :
    Predicate.ofJson? (.object constraint.members) = some (.test constraint) := by
  rw [Predicate.of_json_object]
  cases constraint <;>
    simp [members, List.lookup_cons, Json.asText?, Predicate.ofParts?, ofParts?, field_of_label,
      comparison_of_symbol, list_of_colors_json, Json.as_texts_of_texts, Json.ofInt64, Json.as_int64_of_int]

end Constraint

namespace Predicate

mutual

/-- A predicate is read back from its JSON value. -/
theorem of_json_to_json (p : Predicate) : ofJson? p.toJson = some p := by
  match p with
  | .test constraint => rw [toJson, constraint.of_json_members]
  | .all parts =>
      rw [toJson, of_json_object]
      simp [List.lookup_cons, Json.asText?, ofParts?, listOf?, Json.asArray?, map_m_list_to_json parts]
  | .any parts =>
      rw [toJson, of_json_object]
      simp [List.lookup_cons, Json.asText?, ofParts?, listOf?, Json.asArray?, map_m_list_to_json parts]
  | .not inner =>
      rw [toJson, of_json_object]
      simp [List.lookup_cons, Json.asText?, ofParts?, of_json_to_json inner]

/-- Predicates are read back from their JSON values. -/
theorem map_m_list_to_json (ps : List Predicate) : (listToJson ps).mapM ofJson? = some ps := by
  match ps with
  | [] => rw [listToJson, List.mapM_nil]; rfl
  | p :: ps =>
      rw [listToJson, List.mapM_cons, of_json_to_json p, map_m_list_to_json ps]
      rfl

end

/-- A predicate is read back from its JSON value. What is read from a value does not change when the
members of an object inside are put in another order, nor when members are added that the kind of
the object does not declare. -/
theorem of_json_rearranged :
    (∀ p : Predicate, ofJson? p.toJson = some p) ∧
      ∀ value other : Json, Relation.ReflTransGen Json.Rearranged value other →
        ofJson? other = ofJson? value := by
  refine ⟨of_json_to_json, fun value other h => ?_⟩
  induction h with
  | refl => rfl
  | tail _ hstep ih => rw [← (SameReading.of_rearranged hstep).predicate, ih]

/-- The condition that a card is neither strong nor colorless. -/
def weakAndColored : Predicate :=
  .not (.any [.test (.compare .power .ge 3), .test (.noColors .colors)])

/-- The JSON value of the condition with the members of a comparison turned round, a member added
beside the absence of colors, and the kind of the negation after what it negates. -/
def weakAndColoredRearranged : Json :=
  .object [
    ("inner", .object [("op", .text "or"), ("any", .array [
      .object [("value", .ofInt 3), ("cmp", .text ">="), ("field", .text "power"),
        ("op", .text "compare")],
      .object [("note", .null), ("op", .text "no_colors"), ("field", .text "colors")]])]),
    ("op", .text "not")]

/-- The condition is read back from its rearranged value. -/
theorem of_json_rearranged_negation :
    Relation.ReflTransGen Json.Rearranged weakAndColored.toJson weakAndColoredRearranged ∧
      ofJson? weakAndColoredRearranged = some weakAndColored := by
  have hturned : Json.Rearranged
      (.object [("op", .text "compare"), ("field", .text "power"), ("cmp", .text ">="),
        ("value", .ofInt 3)])
      (.object [("value", .ofInt 3), ("cmp", .text ">="), ("field", .text "power"),
        ("op", .text "compare")]) := .reorder (by decide) (List.reverse_perm _).symm
  have hnoted : Json.Rearranged
      (.object [("op", .text "no_colors"), ("field", .text "colors")])
      (.object [("note", .null), ("op", .text "no_colors"), ("field", .text "colors")]) :=
    .add .null rfl (by decide)
  have hrearranged : Relation.ReflTransGen Json.Rearranged weakAndColored.toJson
      weakAndColoredRearranged :=
    .head (((hturned.item [] [_]).member [("op", .text "or")] [] "any").member
      [("op", .text "not")] [] "inner") <|
    .head (((hnoted.item [_] []).member [("op", .text "or")] [] "any").member
      [("op", .text "not")] [] "inner") <|
    .single (.reorder (by decide) (.swap _ _ _))
  exact ⟨hrearranged, (of_json_rearranged.2 _ _ hrearranged).trans (of_json_rearranged.1 _)⟩

end Predicate

end CardCatalog
