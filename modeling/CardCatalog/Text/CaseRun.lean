/-!
# Runs of characters that map alike

Case mappings move whole stretches of an alphabet by one distance. A `CaseRun` is such a
stretch: every `step`-th code point from `first` to `last` moves by `shift`. `moveBy` looks a
character up in a list of runs.
-/

namespace CardCatalog.Text

/-- Every `step`-th code point from `first` to `last`, together with the distance they move. -/
structure CaseRun where
  first : Nat
  last : Nat
  step : Nat
  shift : Int

/-- The code point lies in the run. -/
def CaseRun.covers (run : CaseRun) (code : Nat) : Bool :=
  run.first ≤ code && code ≤ run.last && (code - run.first) % run.step == 0

/-- Move a character by the shift of the first run that covers it. A character that no run
covers stays. -/
def moveBy (runs : List CaseRun) (c : Char) : Char :=
  match runs.find? (·.covers c.toNat) with
  | some run => Char.ofNat (c.toNat + run.shift).toNat
  | none => c

/-- The character lies in one of the ranges of code points, ends included. -/
def inRanges (ranges : List (Nat × Nat)) (c : Char) : Bool :=
  ranges.any fun (low, high) => low ≤ c.toNat && c.toNat ≤ high

end CardCatalog.Text
