import ThreatModel.Unicode.FoldingData

/-!
Letters that differ in case only: two letters are variants of each other when simple case folding
takes both to the same letter.
-/

namespace ThreatModel.Unicode

/-- The letter that stands for all variants of `point`. -/
def foldPoint (point : Nat) : Nat :=
  shiftPoint foldingRuns point

/-- The letters that a run moves to `target`, at most one. -/
def ShiftRun.sources (run : ShiftRun) (target : Nat) : List Nat :=
  let source := ((target : Int) - run.shift).toNat
  if run.moves source && (source + run.shift).toNat == target then [source] else []

/-- All case variants of `point`, itself among them. -/
def caseVariants (point : Nat) : List Nat :=
  let folded := foldPoint point
  folded :: (foldingRuns.flatMap (·.sources folded)).filter (foldPoint · == folded)

end ThreatModel.Unicode
