import CardCatalog.Proofs.Query.Leaves
import CardCatalog.Proofs.Query.Nesting
import CardCatalog.Proofs.Query.Term

/-!
# The texts of a query

The tokens of a query consist of its characters (`subset_of_mem_tokenize`), and so do the values of its terms. The
texts that a term compares with stem from its value (`SearchKey.stems_build`): each of them is the value escaped,
the value in lower case, a part of the value, or one of the words that the search keys know. Composing predicates
adds no text, so this is so for all texts of a query (`texts_compile`).
-/

namespace CardCatalog

open CardCatalog.Text

/-! ## Characters of tokens and values -/

namespace Token

/-- Only the token that is flushed is put in front of the others. -/
theorem mem_flush {token t : List Char} {others : List (List Char)} (h : t ∈ flush token others) :
    t = token ∨ t ∈ others := by
  rw [flush] at h
  split at h
  · exact .inr h
  · exact List.mem_cons.1 h

/-- Flushing a token keeps to the characters of the tokens. -/
theorem flush_subset {token cs : List Char} {others : List (List Char)} (htoken : token ⊆ cs)
    (hothers : ∀ t ∈ others, t ⊆ cs) : ∀ t ∈ flush token others, t ⊆ cs := by
  intro t ht
  rcases mem_flush ht with rfl | ht
  · exact htoken
  · exact hothers t ht

/-- Splitting a text keeps to its characters. -/
theorem scan_subset (quote : Option Char) (cs : List Char) :
    (scan quote cs).1 ⊆ cs ∧ ∀ t ∈ (scan quote cs).2, t ⊆ cs := by
  induction cs generalizing quote with
  | nil => exact ⟨List.Subset.refl _, fun t ht => absurd ht List.not_mem_nil⟩
  | cons c cs ih =>
      obtain ⟨next, hscan⟩ := scan_cons_cases quote c cs
      have htoken : (scan next cs).1 ⊆ c :: cs := List.subset_cons_of_subset c (ih next).1
      have hothers : ∀ t ∈ (scan next cs).2, t ⊆ c :: cs := fun t ht =>
        List.subset_cons_of_subset c ((ih next).2 t ht)
      have hsplit : ∀ t ∈ split next cs, t ⊆ c :: cs := flush_subset htoken hothers
      rcases hscan with hquote | hbelongs | hown | hends
      · rw [hquote]
        exact ⟨htoken, hothers⟩
      · rw [hbelongs]
        exact ⟨List.cons_subset_cons c (ih next).1, hothers⟩
      · rw [hown]
        exact ⟨List.nil_subset _, List.forall_mem_cons.2 ⟨by simp, hsplit⟩⟩
      · rw [hends]
        exact ⟨List.nil_subset _, hsplit⟩

end Token

/-- A token consists of characters of the query. -/
theorem subset_of_mem_tokenize {query token : String} (h : token ∈ tokenize query) :
    token.toList ⊆ query.toList := by
  obtain ⟨cs, hcs, rfl⟩ := List.mem_map.1 h
  have hscan := Token.scan_subset none query.toList
  rw [String.toList_ofList]
  exact Token.flush_subset hscan.1 hscan.2 cs hcs

/-- The value of a term consists of characters of the token. -/
theorem Term.value_subset (token : String) : (parse token).value.toList ⊆ token.toList := by
  rw [← written_parse token, written]
  exact List.subset_append_right _ _

/-! ## The texts of terms -/

/-- The texts that a constraint compares with. -/
def Constraint.texts : Constraint → List String
  | .matchesPattern _ pattern => [pattern]
  | .equals _ value => [value]
  | .oneOf _ values => values
  | _ => []

namespace SearchKey

/-- The words that the search keys know. -/
def knownWords : List String :=
  placeholderTypeLine :: rarities ++ extraLayouts

/-- The text stems from a value: it is the value escaped or in lower case, or a part of the value, or one of the
words that the search keys know. -/
inductive StemsFrom (value : String) : String → Prop
  | escaped : StemsFrom value (Pattern.escape value)
  | lowered : StemsFrom value (toLower value)
  | part {text : String} (h : text.toList <:+: value.toList) : StemsFrom value text
  | known {text : String} (h : text ∈ knownWords) : StemsFrom value text

/-- Every text of the constraint stems from the value. -/
def TextsStem (value : String) (constraint : Constraint) : Prop :=
  ∀ text ∈ constraint.texts, StemsFrom value text

section

variable {value : String} {p : Predicate} (field : Field) (comparison : Option Comparison)

/-- A phrase is escaped. -/
theorem stems_substring : (substring field value).Each (TextsStem value) :=
  .test (List.forall_mem_singleton.2 .escaped)

/-- A color search compares with no text. -/
theorem stems_color : (colorSearch field value comparison).Each (TextsStem value) := by
  unfold colorSearch
  dsimp only
  split
  · exact .test (List.forall_mem_nil _)
  · split
    all_goals exact .test (List.forall_mem_nil _)

/-- An equality compares with its text. -/
theorem stems_equality {text : String} (h : StemsFrom value text) :
    (equality field text comparison).Each (TextsStem value) := by
  have hequals : (Predicate.test (.equals field text)).Each (TextsStem value) :=
    .test (List.forall_mem_singleton.2 h)
  rw [equality]
  split
  · exact hequals.negate
  · exact hequals

variable {field comparison}

/-- A numeric search compares with no text, or with a part of the value. -/
theorem stems_numeric (hp : numericSearch? field value comparison = some p) : p.Each (TextsStem value) := by
  rcases numeric_search_cases hp with ⟨remainder, _, rfl⟩ | ⟨relation, bound, rfl⟩ | ⟨relation, text, htext, rfl⟩
  · exact .test (List.forall_mem_nil _)
  · exact .test (List.forall_mem_nil _)
  · exact stems_equality field _ (.part htext)

/-- A rarity search compares with rarities, or with the value in lower case. -/
theorem stems_rarity (comparison : Option Comparison) :
    (raritySearch value comparison).Each (TextsStem value) := by
  have hrarities {names : List String} (h : names ⊆ rarities) :
      (Predicate.test (.oneOf .rarity names)).Each (TextsStem value) :=
    .test fun name hname => .known (List.mem_append_left _ (List.mem_cons_of_mem _ (h hname)))
  have hexpanded : StemsFrom value (expandRarity (toLower value)) := by
    rw [expandRarity]
    split
    · exact .known (by decide)
    · split
      · exact .known (by decide)
      · split
        · exact .known (by decide)
        · split
          · exact .known (by decide)
          · exact .lowered
  rw [raritySearch]
  split
  · exact stems_equality _ _ .lowered
  · split
    · exact hrarities (List.drop_subset _ _)
    · exact hrarities (List.drop_subset _ _)
    · exact hrarities (List.take_subset _ _)
    · exact hrarities (List.take_subset _ _)
    · exact stems_equality _ _ hexpanded

/-- The exclusion compares with known words. -/
theorem stems_exclusion (hp : exclusion? value = some p) : p.Each (TextsStem value) := by
  rw [exclusion?] at hp
  split at hp
  · obtain rfl := Option.some.inj hp
    refine .all_of fun q hq => ?_
    rcases List.mem_pair.1 hq with rfl | rfl
    · exact .negate (.test fun layout hlayout => .known (List.mem_append_right _ hlayout))
    · exact .negate (.test (List.forall_mem_singleton.2 (.known (by decide))))
  · exact absurd hp (by simp)

/-- Every text in what a key builds of a value stems from the value. -/
theorem stems_build {key : SearchKey} (hp : key.build? value comparison = some p) :
    p.Each (TextsStem value) := by
  cases key with
  | color | identity =>
      obtain rfl := Option.some.inj hp
      exact stems_color _ comparison
  | type | oracle | flavorName | keyword =>
      obtain rfl := Option.some.inj hp
      exact stems_substring _
  | name =>
      obtain rfl := Option.some.inj hp
      refine .any_of fun q hq => ?_
      rcases List.mem_pair.1 hq with rfl | rfl
      all_goals exact stems_substring _
  | manaValue | power | toughness | loyalty => exact stems_numeric hp
  | set | layout | language =>
      obtain rfl := Option.some.inj hp
      exact stems_equality _ comparison .lowered
  | rarity =>
      obtain rfl := Option.some.inj hp
      exact stems_rarity comparison
  | exclude => exact stems_exclusion hp

end

end SearchKey

/-! ## The texts of queries -/

/-- What holds of the constraints of every term holds of the constraints of the query. -/
theorem compile_each {P : Constraint → Prop} {query : String}
    (h : ∀ token ∈ tokenize query, ∀ p, buildTerm token = some p → p.Each P) :
    (compile query).Each P := by
  have hgraded : IsGraded (fun token => ∀ p, buildTerm token = some p → p.Each P)
      (fun _ p => p.Each P) (fun _ p => p.Each P) :=
    { term := fun _ _ _ p htoken hp => htoken p hp
      any_of := fun _ _ _ hparts => .any_of hparts
      nested := fun _ _ _ hparts => ⟨.all_of hparts, .negate (.all_of hparts)⟩ }
  obtain ⟨parts, hcompile, hparts⟩ := hgraded.compile_query h
  rw [hcompile]
  exact .all_of hparts

/-- Every text of a query stems from the value of one of its terms. -/
theorem texts_compile (query : String) : (compile query).Each fun constraint =>
    ∃ token ∈ tokenize query, SearchKey.TextsStem (Term.parse token).value constraint := by
  refine compile_each fun token htoken p hp => ?_
  obtain ⟨key, built, hbuilt, hnegated⟩ := build_term_eq_some hp
  have hstem : built.Each fun constraint =>
      ∃ token ∈ tokenize query, SearchKey.TextsStem (Term.parse token).value constraint :=
    fun constraint hmem => ⟨token, htoken, SearchKey.stems_build hbuilt constraint hmem⟩
  rcases hnegated with rfl | rfl
  · exact hstem
  · exact hstem.negate

end CardCatalog
