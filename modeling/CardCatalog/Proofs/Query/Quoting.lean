import CardCatalog.Proofs.Query.Quoted
import Mathlib.Data.List.Basic
import Mathlib.Data.List.SplitBy

/-!
# Quoting

Every list of texts is the list of tokens of a query, unless one of the texts is empty
(`tokenize_in_quotes_iff`). Between double quotes every character but a double quote stands for itself,
and between single quotes a double quote does, so a text falls into runs that are each written between
quotes of one kind. The runs of one text stand directly after each other, with spaces between the texts.
-/

namespace CardCatalog

open CardCatalog.Text

namespace Token

/-! ## Runs -/

/-- Both characters are double quotes, or neither is. -/
def sameKind (c d : Char) : Bool :=
  (c == '\x22') == (d == '\x22')

/-- The runs of a text, each as long as can be: of double quotes, or of other characters. -/
def runs (cs : List Char) : List (List Char) :=
  cs.splitBy sameKind

/-- A run between quotes: single ones around double quotes, and double ones around other characters. -/
def quoteRun (run : List Char) : List Char :=
  if '\x22' ∈ run then '\x27' :: (run ++ ['\x27']) else '\x22' :: (run ++ ['\x22'])

/-- A text as a part of a query: its runs between quotes, one directly after the other. -/
def inQuotes (text : String) : String :=
  String.ofList ((runs text.toList).flatMap quoteRun)

/-- Characters are of the same kind if neither is a double quote or both are. -/
theorem same_kind_iff {c d : Char} : sameKind c d = true ↔ (c = '\x22' ↔ d = '\x22') := by
  rw [sameKind, beq_iff_eq, Bool.eq_iff_iff, beq_iff_eq, beq_iff_eq]

/-- The characters are a run: if a double quote is among them, they are nothing but double quotes. -/
def IsRun (run : List Char) : Prop :=
  '\x22' ∈ run → ∀ c ∈ run, c = '\x22'

/-- A text falls into runs. -/
theorem is_run_of_mem_runs {cs run : List Char} (h : run ∈ runs cs) : IsRun run := by
  have htrans : Trans (fun c d => sameKind c d = true) (fun c d => sameKind c d = true)
      (fun c d => sameKind c d = true) :=
    ⟨fun hcd hde => same_kind_iff.2 ((same_kind_iff.1 hcd).trans (same_kind_iff.1 hde))⟩
  have hsymm : Std.Symm fun c d => sameKind c d = true :=
    ⟨fun _ _ hcd => same_kind_iff.2 (same_kind_iff.1 hcd).symm⟩
  -- Neighbours in a run are of the same kind, and so are all of its characters.
  have hkinds := (List.isChain_of_mem_splitBy h).pairwise
  intro hquote c hc
  have hkind := hkinds.forall_of_forall (fun d _ => same_kind_iff.2 Iff.rfl) hc hquote
  exact (same_kind_iff.1 hkind).2 rfl

/-- A run belongs to the token that is being read, without the quotes around it. -/
theorem scan_quote_run {run : List Char} (h : IsRun run) (rest : List Char) :
    scan none (quoteRun run ++ rest) = (run ++ (scan none rest).1, (scan none rest).2) := by
  rw [quoteRun]
  split
  · rename_i hquote
    have hsingle : '\x27' ∉ run := fun hmem => absurd (h hquote _ hmem) (by decide)
    rw [List.cons_append, List.append_assoc]
    exact scan_quoted_append rfl hsingle rest
  · rename_i hdouble
    rw [List.cons_append, List.append_assoc]
    exact scan_quoted_append rfl hdouble rest

/-- Runs between quotes belong to the token that is being read, one after the other. -/
theorem scan_quote_runs {parts : List (List Char)} (h : ∀ run ∈ parts, IsRun run) (rest : List Char) :
    scan none (parts.flatMap quoteRun ++ rest) =
      (parts.flatten ++ (scan none rest).1, (scan none rest).2) := by
  induction parts with
  | nil => rfl
  | cons run parts ih =>
      obtain ⟨hrun, hparts⟩ := List.forall_mem_cons.1 h
      rw [List.flatMap_cons, List.append_assoc, scan_quote_run hrun, ih hparts, List.flatten_cons,
        List.append_assoc]

/-- The quote that closes a run leaves none open. -/
theorem open_quote_to_quote {quote : Char} {cs : List Char} (h : quote ∉ cs) :
    openQuote (some quote) (cs ++ [quote]) = none := by
  induction cs with
  | nil => simp [openQuote]
  | cons c cs ih =>
      rw [List.mem_cons, not_or] at h
      rw [List.cons_append, openQuote, if_neg (Ne.symm h.1)]
      exact ih h.2

/-- A run between quotes leaves none open. -/
theorem open_quote_quote_run {run : List Char} (h : IsRun run) : openQuote none (quoteRun run) = none := by
  rw [quoteRun]
  split
  · rename_i hquote
    exact open_quote_to_quote fun hmem => absurd (h hquote _ hmem) (by decide)
  · rename_i hdouble
    exact open_quote_to_quote hdouble

/-- Runs between quotes leave none open. -/
theorem open_quote_quote_runs {parts : List (List Char)} (h : ∀ run ∈ parts, IsRun run) :
    openQuote none (parts.flatMap quoteRun) = none := by
  induction parts with
  | nil => rfl
  | cons run parts ih =>
      obtain ⟨hrun, hparts⟩ := List.forall_mem_cons.1 h
      rw [List.flatMap_cons, open_quote_append, open_quote_quote_run hrun]
      exact ih hparts

/-! ## Empty tokens -/

/-- Flushing adds no empty token. -/
theorem nil_not_mem_flush (token : List Char) {others : List (List Char)} (h : [] ∉ others) :
    [] ∉ flush token others := by
  cases token with
  | nil => exact h
  | cons c token => simpa [flush] using h

/-- No token behind the one that is being read is empty. -/
theorem nil_not_mem_scan (quote : Option Char) (cs : List Char) : [] ∉ (scan quote cs).2 := by
  induction cs generalizing quote with
  | nil => exact List.not_mem_nil
  | cons c cs ih =>
      obtain ⟨next, hscan⟩ := scan_cons_cases quote c cs
      have hsplit : [] ∉ split next cs := nil_not_mem_flush _ (ih next)
      rcases hscan with hquote | hbelongs | hown | hends
      · rw [hquote]
        exact ih next
      · rw [hbelongs]
        exact ih next
      · rw [hown]
        simpa using hsplit
      · rw [hends]
        exact hsplit

end Token

/-- No query has an empty token. -/
theorem empty_not_mem_tokenize (query : String) : "" ∉ tokenize query := by
  intro hmem
  obtain ⟨cs, hcs, hempty⟩ := List.mem_map.1 hmem
  have hnil : cs = [] := by simpa using hempty
  rw [hnil] at hcs
  exact Token.nil_not_mem_flush _ (Token.nil_not_mem_scan none query.toList) hcs

/-! ## Texts between quotes -/

/-- The runs of a text leave no quote open. -/
theorem quotes_closed_in_quotes (text : String) : QuotesClosed (Token.inQuotes text) := by
  rw [QuotesClosed, Token.inQuotes, String.toList_ofList]
  exact Token.open_quote_quote_runs fun run hrun => Token.is_run_of_mem_runs hrun

/-- The runs of a text are one token, the text, unless it is empty. -/
theorem tokenize_runs {text : String} (hfilled : text ≠ "") :
    tokenize (Token.inQuotes text) = [text] := by
  have hruns : ∀ run ∈ Token.runs text.toList, Token.IsRun run := fun run hrun =>
    Token.is_run_of_mem_runs hrun
  have hscan := Token.scan_quote_runs hruns []
  have htext : (Token.runs text.toList).flatten = text.toList := List.flatten_splitBy _ _
  rw [List.append_nil, htext, Token.scan, List.append_nil] at hscan
  refine tokenize_of_scan hfilled ?_
  rw [Token.inQuotes, String.toList_ofList, hscan]

/-- Texts between quotes, with a space between each and the next, have the texts as their tokens if and
only if none of them is empty; and no query has an empty token. -/
theorem tokenize_in_quotes_iff (texts : List String) :
    (tokenize (String.intercalate " " (texts.map Token.inQuotes)) = texts ↔ "" ∉ texts) ∧
      ∀ query : String, "" ∉ tokenize query := by
  refine ⟨⟨fun h => ?_, fun h => ?_⟩, empty_not_mem_tokenize⟩
  · rw [← h]
    exact empty_not_mem_tokenize _
  · have hself (text : String) (htext : text ∈ texts) : tokenize (Token.inQuotes text) = [text] :=
      tokenize_runs fun hempty => h (hempty ▸ htext)
    have hclosed : ∀ part ∈ texts.map Token.inQuotes, QuotesClosed part := by
      intro part hpart
      obtain ⟨text, _, rfl⟩ := List.mem_map.1 hpart
      exact quotes_closed_in_quotes text
    rw [tokenize_intercalate hclosed, List.flatMap_map, List.flatMap_congr hself, List.flatMap_singleton']

/-- A text with quotes of both kinds, parentheses and a space falls into three runs. -/
example : Token.inQuotes "'(a \x22b" = "\x22'(a \x22'\x22'\x22b\x22" := by
  decide

end CardCatalog
