import CardCatalog.Proofs.Text.LetterCase

/-!
# Lower case beyond ASCII

The runs of the lower-case mapping lead to valid codes, of which only the letter `k` is one of ASCII, and
none of them covers a code that another leads to. So the simple lower-case form of a character stays as
it is (`lower_char_lower_char`), and a text that is lower-cased character by character is its own full
lower-case form (`to_lower_lower_each`), as a full lower-case form is (`to_lower_to_lower`).
-/

namespace CardCatalog.Text

/-! ## Where the runs lead -/

/-- The lower-case mapping beyond ASCII leads from valid codes to valid codes. -/
theorem lower_case_runs_valid :
    ∀ run ∈ lowerCaseRuns, 0 < run.first + run.shift ∧
      (run.last + run.shift < 0xD800 ∨
        (0xDFFF < run.first + run.shift ∧ run.last + run.shift < 0x110000)) := by
  decide +kernel

/-- The lower-case mapping beyond ASCII leads to codes beyond ASCII, except from the Kelvin sign. -/
theorem lower_case_runs_beyond_ascii :
    ∀ run ∈ lowerCaseRuns,
      128 ≤ run.first + run.shift ∨ (run.first = 0x212A ∧ run.last = 0x212A) := by
  decide +kernel

/-- The lower-case mapping beyond ASCII does not lead to the capital I with a dot above. -/
theorem lower_case_runs_not_dotted :
    ∀ run ∈ lowerCaseRuns, run.last + run.shift < 0x130 ∨ 0x130 < run.first + run.shift := by
  decide +kernel

/-- A test that the run covers none of the codes from `first` to `last`, or of every second one of them
if `byTwos` is set. -/
def CaseRun.avoids (run : CaseRun) (first last : Nat) (byTwos : Bool) : Bool :=
  Nat.blt last run.first || Nat.blt run.last first ||
    (byTwos && Nat.beq run.step 2 && Nat.beq ((first + run.first) % 2) 1)

/-- A test that no run of the list covers a code that the run leads to. -/
def CaseRun.leadsAway (runs : List CaseRun) (run : CaseRun) : Bool :=
  runs.all fun other =>
    other.avoids (run.first + run.shift).toNat (run.last + run.shift).toNat
      (Nat.beq run.step 2 || Nat.beq run.first run.last)

/-- The lower-case mapping beyond ASCII leads to codes that it does not cover. -/
theorem lower_case_runs_lead_away : lowerCaseRuns.all (CaseRun.leadsAway lowerCaseRuns) = true := by
  decide +kernel

/-- A code that a run of the lower-case mapping leads to is covered by none. -/
theorem covers_moved {run other : CaseRun} (hrun : run ∈ lowerCaseRuns) (hother : other ∈ lowerCaseRuns)
    {code moved : Nat} (hcode : run.covers code = true) (hmoved : (moved : Int) = code + run.shift) :
    other.covers moved = false := by
  have haway := List.all_eq_true.1 (List.all_eq_true.1 lower_case_runs_lead_away run hrun) other hother
  have hpositive := (lower_case_runs_valid run hrun).1
  simp only [CaseRun.avoids, Bool.or_eq_true, Bool.and_eq_true, Nat.blt_eq, Nat.beq_eq] at haway
  simp only [CaseRun.covers, Bool.and_eq_true, decide_eq_true_eq, beq_iff_eq] at hcode
  simp only [CaseRun.covers, Bool.and_eq_false_iff, decide_eq_false_iff_not, beq_eq_false_iff_ne]
  rcases haway with (hbelow | habove) | ⟨⟨hpace, hstep⟩, hodd⟩
  · omega
  · omega
  · rw [hstep]
    rcases hpace with hpace | hsingle
    · rw [hpace] at hcode
      omega
    · omega

/-- A valid code is that of its character. -/
theorem to_nat_of_nat {n : Nat} (hvalid : n.isValidChar) : (Char.ofNat n).toNat = n := by
  rw [Char.ofNat, dif_pos hvalid]
  rfl

/-- A character stays where it is, covered by no run, or moves by the shift of a run that covers it. -/
theorem move_by_lower_cases (c : Char) :
    (moveBy lowerCaseRuns c = c ∧ ∀ run ∈ lowerCaseRuns, run.covers c.toNat = false) ∨
      ∃ run ∈ lowerCaseRuns, run.covers c.toNat = true ∧
        ((moveBy lowerCaseRuns c).toNat : Int) = c.toNat + run.shift := by
  rw [moveBy]
  split
  · rename_i run hrun
    have hmem := List.mem_of_find?_eq_some hrun
    have hcovers := List.find?_some hrun
    obtain ⟨hpositive, hvalid⟩ := lower_case_runs_valid run hmem
    refine .inr ⟨run, hmem, hcovers, ?_⟩
    simp only [CaseRun.covers, Bool.and_eq_true, decide_eq_true_eq] at hcovers
    rw [to_nat_of_nat (by rw [Nat.isValidChar]; omega)]
    omega
  · rename_i hnone
    exact .inl ⟨rfl, fun run hrun => by simpa using List.find?_eq_none.1 hnone run hrun⟩

/-- A character beyond ASCII that moves into ASCII is the Kelvin sign. -/
theorem eq_kelvin_of_move_by {c : Char} (hbeyond : 128 ≤ c.toNat)
    (h : (moveBy lowerCaseRuns c).toNat < 128) : c.toNat = 0x212A := by
  rcases move_by_lower_cases c with ⟨hstays, _⟩ | ⟨run, hrun, hcovers, hmoved⟩
  · rw [hstays] at h
    omega
  · simp only [CaseRun.covers, Bool.and_eq_true, decide_eq_true_eq] at hcovers
    have hkelvin := lower_case_runs_beyond_ascii run hrun
    omega

/-- No run covers what a character moves to. -/
theorem move_by_lower_move_by (c : Char) :
    moveBy lowerCaseRuns (moveBy lowerCaseRuns c) = moveBy lowerCaseRuns c := by
  rcases move_by_lower_cases c with ⟨hstays, _⟩ | ⟨run, hrun, hcovers, hmoved⟩
  · rw [hstays, hstays]
  · rcases move_by_lower_cases (moveBy lowerCaseRuns c) with ⟨hstays, _⟩ | ⟨other, hother, hagain, _⟩
    · exact hstays
    · rw [covers_moved hrun hother hcovers hmoved] at hagain
      cases hagain

/-! ## Texts in lower case -/

/-- The lower-case form of an ASCII character is one of ASCII. -/
theorem ascii_lower_lt {c : Char} (h : c.toNat < 128) : (asciiLower c).toNat < 128 := by
  rcases ascii_lower_cases c with heq | ⟨_, _, hsmall⟩
  · rwa [heq]
  · omega

/-- The simple lower-case form of a character stays as it is. -/
theorem lower_char_lower_char (c : Char) : lowerChar (lowerChar c) = lowerChar c := by
  by_cases hascii : c.toNat < 128
  · have hlowered : lowerChar c = asciiLower c := by rw [lowerChar, if_pos hascii]
    rw [hlowered, lowerChar, if_pos (ascii_lower_lt hascii), ascii_lower_ascii_lower]
  by_cases hdotted : c.toNat = 0x130
  · have hlowered : lowerChar c = 'i' := by rw [lowerChar, if_neg hascii, if_pos (by simpa using hdotted)]
    rw [hlowered]
    rfl
  have hlowered : lowerChar c = moveBy lowerCaseRuns c := by
    rw [lowerChar, if_neg hascii, if_neg (by simpa using hdotted)]
  rw [hlowered]
  by_cases hmoved : (moveBy lowerCaseRuns c).toNat < 128
  · have hkelvin : c = Char.ofNat 0x212A := by
      rw [← eq_kelvin_of_move_by (by omega) hmoved, Char.ofNat_toNat]
    rw [hkelvin]
    rfl
  · have hnotDotted : (moveBy lowerCaseRuns c).toNat ≠ 0x130 := by
      rcases move_by_lower_cases c with ⟨hstays, _⟩ | ⟨run, hrun, hcovers, hcode⟩
      · rwa [hstays]
      · simp only [CaseRun.covers, Bool.and_eq_true, decide_eq_true_eq] at hcovers
        have hapart := lower_case_runs_not_dotted run hrun
        omega
    rw [lowerChar, if_neg hmoved, if_neg (by simpa using hnotDotted), move_by_lower_move_by]

/-- No character beyond ASCII has an ASCII lower-case form of its own. -/
theorem ascii_lower_of_beyond {c : Char} (h : 128 ≤ c.toNat) : asciiLower c = c := by
  refine (ascii_lower_cases c).resolve_right fun hletter => ?_
  have hcode := (is_ascii_letter_iff c).1 hletter.1
  omega

/-- Of the ASCII characters only `i` and `k` are the lower-case forms of others than their own
capitals. -/
theorem ascii_lower_lower_char_eq_iff {d : Char} (hascii : d.toNat < 128) (hi : d ≠ 'i') (hk : d ≠ 'k')
    (c : Char) : asciiLower (lowerChar c) = d ↔ asciiLower c = d := by
  by_cases hc : c.toNat < 128
  · rw [lowerChar, if_pos hc, ascii_lower_ascii_lower]
  have hbeyond {e : Char} (he : 128 ≤ e.toNat) : asciiLower e ≠ d := by
    rw [ascii_lower_of_beyond he]
    rintro rfl
    omega
  refine iff_of_false ?_ (hbeyond (by omega))
  by_cases hdotted : c.toNat = 0x130
  · rw [lowerChar, if_neg hc, if_pos (by simpa using hdotted)]
    exact hi.symm
  rw [lowerChar, if_neg hc, if_neg (by simpa using hdotted)]
  by_cases hmoved : (moveBy lowerCaseRuns c).toNat < 128
  · have hkelvin : c = Char.ofNat 0x212A := by
      rw [← eq_kelvin_of_move_by (by omega) hmoved, Char.ofNat_toNat]
    rw [hkelvin]
    exact hk.symm
  · exact hbeyond (by omega)

/-- An ASCII character other than `i` and `k` occurs in the lower-case form of a text, in either case,
if it occurs in the text. -/
theorem mem_lower_after_iff {d : Char} (hascii : d.toNat < 128) (hi : d ≠ 'i') (hk : d ≠ 'k')
    (before cs : List Char) :
    d ∈ (lowerAfter before cs).map asciiLower ↔ d ∈ cs.map asciiLower := by
  have hbeyond {e : Char} (he : 128 ≤ e.toNat) : d ≠ asciiLower e := by
    rw [ascii_lower_of_beyond he]
    rintro rfl
    omega
  induction cs generalizing before with
  | nil => rfl
  | cons c cs ih =>
      rw [lowerAfter, List.map_append, List.mem_append, List.map_cons, List.mem_cons]
      refine or_congr ?_ (ih (c :: before))
      split
      · rename_i hsigma
        rw [beq_iff_eq] at hsigma
        subst hsigma
        refine iff_of_false ?_ (hbeyond (by decide))
        split
        all_goals
          rw [List.map_singleton, List.mem_singleton]
          exact hbeyond (by decide)
      · split
        · rename_i hdotted
          have hcode : c.toNat = 0x130 := by simpa using hdotted
          refine iff_of_false ?_ (hbeyond (by omega))
          rw [List.map_cons, List.map_singleton, List.mem_cons, List.mem_singleton, not_or]
          exact ⟨hi, hbeyond (by decide)⟩
        · rw [List.map_singleton, List.mem_singleton, eq_comm, eq_comm (a := d),
            ascii_lower_lower_char_eq_iff hascii hi hk]

/-- Characters in lower case stay as they are, wherever they stand. -/
theorem lower_after_eq_self {cs : List Char} (h : ∀ c ∈ cs, lowerChar c = c) (before : List Char) :
    lowerAfter before cs = cs := by
  induction cs generalizing before with
  | nil => rfl
  | cons c cs ih =>
      obtain ⟨hc, hcs⟩ := List.forall_mem_cons.1 h
      -- The two characters with lower-case forms of their own are capitals.
      have hsigma : (c == 'Σ') = false := by
        rw [beq_eq_false_iff_ne]
        rintro rfl
        exact absurd hc (by decide)
      have hdotted : (c.toNat == 0x130) = false := by
        rw [beq_eq_false_iff_ne]
        intro hcode
        rw [lowerChar, if_neg (by omega), if_pos (by simpa using hcode)] at hc
        rw [← hc] at hcode
        exact absurd hcode (by decide)
      rw [lowerAfter, hsigma, hdotted, ih hcs]
      simp [hc]

/-- A text that is lower-cased character by character is its own full lower-case form. -/
theorem to_lower_lower_each (s : String) : toLower (lowerEach s) = lowerEach s := by
  rw [toLower, lowerEach, String.toList_ofList, lower_after_eq_self]
  intro c hc
  obtain ⟨d, _, rfl⟩ := List.mem_map.1 hc
  exact lower_char_lower_char d

/-- Every character of a full lower-case form is in lower case. -/
theorem lower_char_of_mem_lower_after {before cs : List Char} {c : Char}
    (h : c ∈ lowerAfter before cs) : lowerChar c = c := by
  induction cs generalizing before with
  | nil => simp [lowerAfter] at h
  | cons d cs ih =>
      rw [lowerAfter, List.mem_append] at h
      rcases h with h | h
      · split at h
        · split at h <;> rw [List.mem_singleton.1 h] <;> decide
        · split at h
          · obtain rfl | rfl : c = 'i' ∨ c = Char.ofNat 0x307 := by simpa using h
            all_goals decide
          · rw [List.mem_singleton.1 h]
            exact lower_char_lower_char d
      · exact ih h

/-- The full lower-case form of a text stays as it is. -/
theorem to_lower_to_lower (s : String) : toLower (toLower s) = toLower s := by
  rw [toLower, toLower, String.toList_ofList, lower_after_eq_self]
  exact fun c hc => lower_char_of_mem_lower_after hc

end CardCatalog.Text
