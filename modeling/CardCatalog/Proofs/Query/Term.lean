import CardCatalog.Proofs.Condition.Parts
import CardCatalog.Query.Term
import Mathlib.Data.List.TakeWhile

/-!
# The forms of a term

Taking a token apart loses nothing: the dash, the key, the comparison or the colon, and the value make
up the token (`written_parse`). A token is taken as a bare value exactly if it has none of the other
forms (`parse_of_is_bare`, `is_bare_of_parse`).
-/

namespace CardCatalog

namespace Comparison

/-- A text is what is expected and a rest exactly if the rest is left over. -/
theorem strip_front_eq_some_iff {expected cs rest : List Char} :
    stripFront? expected cs = some rest ↔ cs = expected ++ rest := by
  induction expected generalizing cs with
  | nil => simp [stripFront?]
  | cons d expected ih =>
      cases cs with
      | nil => simp [stripFront?]
      | cons c cs =>
          by_cases hfirst : d = c
          · simp [stripFront?, hfirst, ih]
          · simp [stripFront?, hfirst, Ne.symm hfirst]

/-- A text starts with the symbol of a comparison exactly if the rest is left over. -/
theorem strip_eq_some_iff {comparison : Comparison} {cs rest : List Char} :
    comparison.strip? cs = some rest ↔ cs = comparison.symbol.toList ++ rest :=
  strip_front_eq_some_iff

/-- Every comparison is tried. -/
theorem mem_longest_first (comparison : Comparison) : comparison ∈ longestFirst := by
  cases comparison <;> decide

end Comparison

namespace Term

/-- The comparison that is read stands in front of a value that is not empty. -/
theorem read_comparison_eq_some {cs value : List Char} {comparison : Comparison}
    (h : readComparison? cs = some (comparison, value)) :
    value ≠ [] ∧ cs = comparison.symbol.toList ++ value := by
  obtain ⟨tried, _, hread⟩ := List.exists_of_findSome?_eq_some h
  split at hread
  · rename_i c rest hstrip
    obtain ⟨rfl, rfl⟩ := Prod.mk.inj (Option.some.inj hread)
    exact ⟨List.cons_ne_nil _ _, Comparison.strip_eq_some_iff.1 hstrip⟩
  · exact absurd hread (by simp)

/-- No comparison is read exactly if the text is no symbol with a value after it. -/
theorem read_comparison_eq_none_iff {cs : List Char} :
    readComparison? cs = none ↔
      ∀ (comparison : Comparison) (value : List Char), value ≠ [] →
        cs ≠ comparison.symbol.toList ++ value := by
  constructor
  · intro h comparison value hvalue hcs
    have htried := List.findSome?_eq_none_iff.1 h comparison (Comparison.mem_longest_first comparison)
    rw [Comparison.strip_eq_some_iff.2 hcs] at htried
    cases value with
    | nil => exact hvalue rfl
    | cons c rest => exact absurd htried (by simp)
  · intro h
    cases hread : readComparison? cs with
    | none => rfl
    | some found =>
        obtain ⟨hvalue, hcs⟩ := read_comparison_eq_some hread
        exact absurd hcs (h found.1 found.2 hvalue)

/-- The value does not make the symbol of a comparison in front of it a longer one, as an equals sign
does after the symbols of the strict comparisons. -/
def LeavesSymbol (comparison : Comparison) (value : List Char) : Prop :=
  comparison = .gt ∨ comparison = .lt → value.head? ≠ some '='

/-- A comparison is read in front of a value that leaves its symbol as it is. -/
theorem read_comparison_append (comparison : Comparison) {value : List Char} (hvalue : value ≠ [])
    (hsymbol : LeavesSymbol comparison value) :
    readComparison? (comparison.symbol.toList ++ value) = some (comparison, value) := by
  obtain ⟨c, rest, rfl⟩ := List.exists_cons_of_ne_nil hvalue
  have hfirst : comparison = .gt ∨ comparison = .lt → '=' ≠ c :=
    fun hstrict heq => hsymbol hstrict (by rw [heq]; rfl)
  cases comparison <;>
    simp_all [readComparison?, Comparison.longestFirst, Comparison.strip?, Comparison.stripFront?,
      Comparison.symbol]

/-- The text has the form of a key of letters, a comparison and a value. -/
def IsCompared (body : List Char) : Prop :=
  ∃ (key : List Char) (comparison : Comparison) (value : List Char),
    key ≠ [] ∧ (∀ c ∈ key, isKeyLetter c = true) ∧ value ≠ [] ∧
      body = key ++ comparison.symbol.toList ++ value

/-- What is taken apart as a comparison is a key of letters, the symbol and a value. -/
theorem compared_eq_some {body : List Char} {key value : String} {comparison : Comparison}
    (h : compared? body = some (key, comparison, value)) :
    key ≠ "" ∧ (∀ c ∈ key.toList, isKeyLetter c = true) ∧ value ≠ "" ∧
      body = key.toList ++ comparison.symbol.toList ++ value.toList := by
  unfold compared? at h
  dsimp only at h
  split at h
  · exact absurd h (by simp)
  · rename_i hkey
    obtain ⟨⟨found, rest⟩, hread, heq⟩ := Option.map_eq_some_iff.1 h
    obtain ⟨hvalue, hrest⟩ := read_comparison_eq_some hread
    obtain ⟨rfl, hpair⟩ := Prod.mk.inj heq
    obtain ⟨rfl, rfl⟩ := Prod.mk.inj hpair
    refine ⟨?_, ?_, ?_, ?_⟩
    · simpa using hkey
    · intro c hc
      rw [String.toList_ofList] at hc
      exact List.mem_takeWhile_imp hc
    · simpa using hvalue
    · rw [String.toList_ofList, String.toList_ofList, List.append_assoc, ← hrest,
        List.takeWhile_append_dropWhile]

/-- No symbol of a comparison starts with a letter of keys. -/
theorem is_key_letter_head_symbol (comparison : Comparison) (value : List Char) :
    ∀ c ∈ (comparison.symbol.toList ++ value).head?, isKeyLetter c = false := by
  cases comparison <;> simp [Comparison.symbol] <;> decide

/-- A text is not taken apart as a comparison exactly if it does not have that form. -/
theorem compared_eq_none_iff {body : List Char} : compared? body = none ↔ ¬ IsCompared body := by
  constructor
  · rintro h ⟨key, comparison, value, hkey, hletters, hvalue, rfl⟩
    -- No symbol starts with a letter, so the key is all of the letters.
    have hsymbol := is_key_letter_head_symbol comparison value
    have hread : readComparison? (comparison.symbol.toList ++ value) = none := by
      unfold compared? at h
      rw [List.append_assoc, Text.take_while_append_of_all hletters hsymbol,
        Text.drop_while_append_of_all hletters hsymbol] at h
      simpa [hkey] using h
    exact read_comparison_eq_none_iff.1 hread comparison value hvalue rfl
  · intro h
    cases hcompared : compared? body with
    | none => rfl
    | some found =>
        obtain ⟨hkey, hletters, hvalue, hbody⟩ := compared_eq_some hcompared
        exact absurd ⟨_, _, _, by simpa using hkey, hletters, by simpa using hvalue, hbody⟩ h

/-- A text is taken apart at its first colon, where a key stands before it. -/
theorem keyed_eq_some_iff {body : List Char} {key value : String} :
    keyed? body = some (key, value) ↔
      key ≠ "" ∧ ':' ∉ key.toList ∧ body = key.toList ++ ':' :: value.toList := by
  constructor
  · intro h
    unfold keyed? at h
    dsimp only at h
    split at h
    · exact absurd h (by simp)
    · rename_i c rest hdrop
      have hcolon : c = ':' := by
        have hhead := List.head?_dropWhile_not (· != ':') body
        rw [hdrop] at hhead
        simpa using hhead
      split at h
      · exact absurd h (by simp)
      · rename_i hkey
        obtain ⟨rfl, rfl⟩ := Prod.mk.inj (Option.some.inj h)
        refine ⟨by simpa using hkey, ?_, ?_⟩
        · intro hmem
          rw [String.toList_ofList] at hmem
          simpa using List.mem_takeWhile_imp hmem
        · rw [hcolon] at hdrop
          rw [String.toList_ofList, String.toList_ofList, ← hdrop, List.takeWhile_append_dropWhile]
  · rintro ⟨hkey, hcolon, rfl⟩
    have hbefore : ∀ c ∈ key.toList, (c != ':') = true := by
      intro c hc
      simpa using fun heq : c = ':' => hcolon (heq ▸ hc)
    have hafter : ∀ c ∈ (':' :: value.toList).head?, (c != ':') = false := by simp
    unfold keyed?
    rw [Text.take_while_append_of_all hbefore hafter,
      Text.drop_while_append_of_all hbefore hafter]
    simp [hkey]

/-- A text is not taken apart at a colon exactly if it has none or starts with one. -/
theorem keyed_eq_none_iff {body : List Char} :
    keyed? body = none ↔ ':' ∉ body ∨ body.head? = some ':' := by
  constructor
  · intro h
    by_contra hcolon
    rw [not_or, not_not] at hcolon
    obtain ⟨key, value, rfl, hkey⟩ := List.eq_append_cons_of_mem hcolon.1
    have hfilled : key ≠ [] := by
      rintro rfl
      exact hcolon.2 rfl
    have hkeyed : keyed? (key ++ ':' :: value) = some (String.ofList key, String.ofList value) :=
      keyed_eq_some_iff.2 ⟨by simpa using hfilled, by simpa using hkey, by simp⟩
    exact absurd (h.symm.trans hkeyed) (by simp)
  · intro h
    cases hkeyed : keyed? body with
    | none => rfl
    | some found =>
        obtain ⟨hfilled, hkey, rfl⟩ := keyed_eq_some_iff.1 hkeyed
        rcases h with hcolon | hcolon
        · exact absurd (by simp) hcolon
        · -- The key is not empty, so the first colon would stand in it.
          have hchars : found.1.toList ≠ [] := by simpa using hfilled
          obtain ⟨c, rest, hkeyChars⟩ := List.exists_cons_of_ne_nil hchars
          rw [hkeyChars, List.cons_append, List.head?_cons] at hcolon
          obtain rfl := Option.some.inj hcolon
          rw [hkeyChars] at hkey
          exact absurd (List.mem_cons_self ..) hkey

/-- A token that starts with a key of letters is not negated. -/
theorem parse_of_key_letters {key : String} (hfilled : key ≠ "")
    (hkey : ∀ c ∈ key.toList, isKeyLetter c = true) (rest : String) :
    parse (key ++ rest) = ofBody false (key.toList ++ rest.toList) := by
  rw [parse, String.toList_append]
  split
  · rename_i c tail hdash
    -- A dash is no letter, so the key does not start with one.
    obtain ⟨d, letters, hletters⟩ :=
      List.exists_cons_of_ne_nil (l := key.toList) (by simpa using hfilled)
    rw [hletters, List.cons_append] at hdash
    obtain ⟨rfl, _⟩ := List.cons_eq_cons.1 hdash
    exact absurd (hkey '-' (by rw [hletters]; exact List.mem_cons_self ..)) (by decide)
  · rfl

/-- A key of letters with a value after a colon is taken apart there. -/
theorem parse_keyed {key : String} (hfilled : key ≠ "")
    (hkey : ∀ c ∈ key.toList, isKeyLetter c = true) (value : String) :
    parse (key ++ ":" ++ value) = ⟨some key, value, none, false⟩ := by
  have hchars : (":" ++ value).toList = ':' :: value.toList := by
    simp [String.toList_append]
  have hcompared : compared? (key.toList ++ ':' :: value.toList) = none := by
    have hcolon : ∀ c ∈ (':' :: value.toList).head?, isKeyLetter c = false := by simp; decide
    have hread : readComparison? (':' :: value.toList) = none := by
      rw [read_comparison_eq_none_iff]
      intro comparison rest _ heq
      cases comparison <;> simp [Comparison.symbol] at heq
    unfold compared?
    rw [Text.take_while_append_of_all hkey hcolon,
      Text.drop_while_append_of_all hkey hcolon, hread]
    simp
  have hkeyed : keyed? (key.toList ++ ':' :: value.toList) = some (key, value) :=
    keyed_eq_some_iff.2 ⟨hfilled, fun hmem => absurd (hkey _ hmem) (by decide), rfl⟩
  rw [String.append_assoc, parse_of_key_letters hfilled hkey, hchars, ofBody, hcompared, hkeyed]

/-- A key of letters with a value after a comparison is taken apart there, if the value leaves the symbol
as it is. -/
theorem parse_compared_of_leaves_symbol {key : String} (hfilled : key ≠ "")
    (hkey : ∀ c ∈ key.toList, isKeyLetter c = true) {comparison : Comparison} {value : String}
    (hvalue : value ≠ "") (hlongest : LeavesSymbol comparison value.toList) :
    parse (key ++ comparison.symbol ++ value) = ⟨some key, value, some comparison, false⟩ := by
  have hsymbol := is_key_letter_head_symbol comparison value.toList
  have hkeyChars : key.toList.isEmpty = false := by simpa using hfilled
  have hcompared : compared? (key.toList ++ (comparison.symbol.toList ++ value.toList)) =
      some (key, comparison, value) := by
    unfold compared?
    rw [Text.take_while_append_of_all hkey hsymbol,
      Text.drop_while_append_of_all hkey hsymbol,
      read_comparison_append comparison (by simpa using hvalue) hlongest]
    simp [hkeyChars]
  rw [String.append_assoc, parse_of_key_letters hfilled hkey, String.toList_append, ofBody,
    hcompared]

/-- A key of letters with a value after a comparison is taken apart there, unless the value starts with
an equals sign. -/
theorem parse_compared {key : String} (hfilled : key ≠ "")
    (hkey : ∀ c ∈ key.toList, isKeyLetter c = true) (comparison : Comparison) {value : String}
    (hvalue : value ≠ "") (hequals : value.toList.head? ≠ some '=') :
    parse (key ++ comparison.symbol ++ value) = ⟨some key, value, some comparison, false⟩ :=
  parse_compared_of_leaves_symbol hfilled hkey hvalue fun _ => hequals

/-! ## What makes up a token -/

/-- The text of a term: the dash that negates it, its key with the comparison or the colon after it,
and its value. -/
def written (term : Term) : List Char :=
  (if term.negated then ['-'] else []) ++
    (match term.key with
      | none => []
      | some key => key.toList ++ (term.comparison.elim [':'] (·.symbol.toList))) ++
    term.value.toList

/-- The parts of a body make it up. -/
theorem written_of_body (negated : Bool) (body : List Char) :
    (ofBody negated body).written = (if negated then ['-'] else []) ++ body := by
  rw [ofBody]
  split
  · rename_i key comparison value hcompared
    obtain ⟨_, _, _, rfl⟩ := compared_eq_some hcompared
    simp [written]
  · split
    · rename_i key value hkeyed
      obtain ⟨_, _, rfl⟩ := keyed_eq_some_iff.1 hkeyed
      simp [written]
    · simp [written]

/-- The parts of a token make it up. -/
theorem written_parse (token : String) : (parse token).written = token.toList := by
  rw [parse]
  split
  · rename_i c rest hdash
    rw [written_of_body, hdash]
    rfl
  · rw [written_of_body]
    rfl

/-- A value that is all of the token has neither dash nor key in front. -/
theorem eq_bare_of_value_eq {token : String} (h : (parse token).value = token) :
    (parse token).negated = false ∧ (parse token).key = none := by
  have hwritten := written_parse token
  rw [written, h, List.append_left_eq_self, List.append_eq_nil_iff] at hwritten
  obtain ⟨hdash, hkey⟩ := hwritten
  refine ⟨by simpa using hdash, ?_⟩
  cases hkeyed : (parse token).key with
  | none => rfl
  | some key =>
      rw [hkeyed] at hkey
      cases hcomparison : (parse token).comparison with
      | none => simp [hcomparison] at hkey
      | some comparison => cases comparison <;> simp [hcomparison, Comparison.symbol] at hkey

/-! ## Bare values -/

/-- A token without any form but that of a bare value: no dash with anything after it, no key of
letters with a comparison and a value, and no colon after the first character, unless that is one. -/
structure IsBare (token : List Char) : Prop where
  undashed : ∀ c rest, token ≠ '-' :: c :: rest
  uncompared : ¬ IsCompared token
  unkeyed : ':' ∉ token ∨ token.head? = some ':'

/-- Whether a body is negated is not a matter of its form. -/
theorem negated_of_body (negated : Bool) (body : List Char) :
    (ofBody negated body).negated = negated := by
  rw [ofBody]
  split
  · rfl
  · split <;> rfl

/-- A body has no key exactly if it has neither the form of a comparison nor that of a key and a
value. -/
theorem key_of_body_eq_none_iff (negated : Bool) (body : List Char) :
    (ofBody negated body).key = none ↔
      ¬ IsCompared body ∧ (':' ∉ body ∨ body.head? = some ':') := by
  rw [← compared_eq_none_iff, ← keyed_eq_none_iff, ofBody]
  cases hcompared : compared? body with
  | some found => simp
  | none =>
      cases hkeyed : keyed? body with
      | some found => simp
      | none => simp

/-- A token without another form is taken as a bare value. -/
theorem parse_of_is_bare {token : String} (h : IsBare token.toList) :
    parse token = ⟨none, token, none, false⟩ := by
  rw [parse]
  split
  · rename_i c rest hdash
    exact absurd hdash (h.undashed c rest)
  · rw [ofBody, compared_eq_none_iff.2 h.uncompared, keyed_eq_none_iff.2 h.unkeyed,
      String.ofList_toList]

/-- A token that is taken as a bare value has no other form. -/
theorem is_bare_of_parse {token : String} (hnegated : (parse token).negated = false)
    (hkey : (parse token).key = none) : IsBare token.toList := by
  rw [parse] at hnegated hkey
  split at hnegated
  · rw [negated_of_body] at hnegated
    exact absurd hnegated (by decide)
  · rename_i hundashed
    have hforms := (key_of_body_eq_none_iff false token.toList).1 (by simpa using hkey)
    exact ⟨fun c rest hdash => hundashed c rest hdash, hforms.1, hforms.2⟩

end Term

end CardCatalog
