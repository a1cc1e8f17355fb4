import CardCatalog.Proofs.Query.Spelling
import CardCatalog.Proofs.Query.Token

/-!
# Tokens of quoted text

Plain characters and quoted runs add to the token that is being read (`scan_plain_append`,
`scan_quoted_append`). Plain characters are therefore one token (`tokenize_plain`). So is one quoted run,
whatever stands between the quotes, and a key with a quoted value (`tokenize_quoted`,
`tokenize_keyed`).
-/

namespace CardCatalog

open CardCatalog.Text

namespace Token

/-- The character neither ends a token nor opens a quoted run. -/
def IsPlain (c : Char) : Prop :=
  isQuote c = false ∧ isParen c = false ∧ isWhiteSpace c = false

instance (c : Char) : Decidable (IsPlain c) :=
  inferInstanceAs (Decidable (_ ∧ _ ∧ _))

/-- Characters are plain if a test of each of them says so. -/
theorem forall_is_plain_of_all {cs : List Char} (h : (cs.all fun c => decide (IsPlain c)) = true) :
    ∀ c ∈ cs, IsPlain c := by
  simpa using h

/-- Plain characters belong to the token that is being read. -/
theorem scan_plain_append {cs : List Char} (h : ∀ c ∈ cs, IsPlain c) (rest : List Char) :
    scan none (cs ++ rest) = (cs ++ (scan none rest).1, (scan none rest).2) := by
  induction cs with
  | nil => rfl
  | cons c cs ih =>
      obtain ⟨⟨hquote, hparen, hspace⟩, hcs⟩ := List.forall_mem_cons.1 h
      have hrest := ih hcs
      simp only [List.cons_append, scan, hquote, hparen, hspace, Bool.false_eq_true, if_false, hrest]

/-- What stands before the quote that closes a run belongs to the token that is being read. -/
theorem scan_to_quote {quote : Char} {cs : List Char} (h : quote ∉ cs) (rest : List Char) :
    scan (some quote) (cs ++ quote :: rest) = (cs ++ (scan none rest).1, (scan none rest).2) := by
  induction cs with
  | nil => rw [List.nil_append, scan, if_pos rfl, List.nil_append]
  | cons c cs ih =>
      rw [List.mem_cons, not_or] at h
      have hrest := ih h.2
      simp only [List.cons_append, scan, if_neg (Ne.symm h.1), hrest]

/-- A quoted run belongs to the token that is being read, without its quotes. -/
theorem scan_quoted_append {quote : Char} (hquote : isQuote quote = true) {cs : List Char}
    (h : quote ∉ cs) (rest : List Char) :
    scan none (quote :: (cs ++ quote :: rest)) = (cs ++ (scan none rest).1, (scan none rest).2) := by
  rw [scan, if_pos hquote, scan_to_quote h]

/-- A letter of keys is plain. -/
theorem is_plain_of_is_key_letter {c : Char} (h : Term.isKeyLetter c = true) : IsPlain c := by
  refine ⟨?_, ?_, ?_⟩
  · simp only [isQuote, Bool.or_eq_false_iff, beq_eq_false_iff_ne]
    constructor
    all_goals (rintro rfl; revert h; decide)
  · simp only [isParen, Bool.or_eq_false_iff, beq_eq_false_iff_ne]
    constructor
    all_goals (rintro rfl; revert h; decide)
  · rw [Term.is_key_letter_iff] at h
    simp only [isWhiteSpace, Bool.or_eq_false_iff, Bool.and_eq_false_iff, decide_eq_false_iff_not,
      beq_eq_false_iff_ne]
    omega

end Token

/-- A text in which one token is read and no others is that token, unless it is empty. -/
theorem tokenize_of_scan {query token : String} (hfilled : token ≠ "")
    (hscan : Token.scan none query.toList = (token.toList, [])) : tokenize query = [token] := by
  have hnonempty : token.toList.isEmpty = false := by simpa using hfilled
  rw [tokenize, Token.split, hscan, Token.flush, hnonempty]
  simp

/-- Plain characters are one token, unless there are none. -/
theorem tokenize_plain {text : String} (hfilled : text ≠ "")
    (hplain : ∀ c ∈ text.toList, Token.IsPlain c) : tokenize text = [text] := by
  have hscan := Token.scan_plain_append hplain []
  rw [List.append_nil, Token.scan, List.append_nil] at hscan
  exact tokenize_of_scan hfilled hscan

/-- A quoted run is one token, unless nothing is quoted. -/
theorem tokenize_quoted {text : String} (hfilled : text ≠ "") (hquote : '\x22' ∉ text.toList) :
    tokenize ("\x22" ++ text ++ "\x22") = [text] := by
  have hchars : ("\x22" ++ text ++ "\x22").toList = '\x22' :: (text.toList ++ '\x22' :: []) := by
    rw [String.toList_append, String.toList_append]
    rfl
  refine tokenize_of_scan hfilled ?_
  rw [hchars, Token.scan_quoted_append rfl hquote, Token.scan, List.append_nil]

/-- A key with a quoted value is one token. -/
theorem tokenize_keyed {key value : String} (hkey : ∀ c ∈ key.toList, Term.isKeyLetter c = true)
    (hquote : '\x22' ∉ value.toList) :
    tokenize (key ++ ":\x22" ++ value ++ "\x22") = [key ++ ":" ++ value] := by
  have hchars : (key ++ ":\x22" ++ value ++ "\x22").toList =
      (key.toList ++ [':']) ++ '\x22' :: (value.toList ++ '\x22' :: []) := by
    simp [String.toList_append]
  have hplain : ∀ c ∈ key.toList ++ [':'], Token.IsPlain c := by
    refine List.forall_mem_append.2 ⟨fun c hc => Token.is_plain_of_is_key_letter (hkey c hc), ?_⟩
    intro c hc
    obtain rfl := List.mem_singleton.1 hc
    exact ⟨rfl, rfl, rfl⟩
  refine tokenize_of_scan (by simp) ?_
  rw [hchars, Token.scan_plain_append hplain, Token.scan_quoted_append rfl hquote, Token.scan,
    List.append_nil, String.toList_append, String.toList_append]
  rfl

end CardCatalog
