import ThreatModel.Unicode.Category
import ThreatModel.Unicode.ScriptData

/-!
Scripts of code points. A code point has one script, and for most code points the scripts that use
it are this one alone; `sharedScripts` lists the others.
-/

namespace ThreatModel.Unicode

/-- The script of every code point. -/
def scripts : List CodeRun :=
  codeRuns 4 0 (tableWords scriptRuns)

/-- Code points from `first` to `last`, used by all scripts of `codes`. -/
structure SharedRun where
  codes : List (List Char)
  first : Nat
  last : Nat

/-- The runs whose scripts are listed one by one. -/
def sharedScripts : List SharedRun :=
  (tableWords sharedScriptRuns).filterMap fun word =>
    match word.splitOn ':' with
    | [codes, first, length] =>
        some ⟨codes.splitOn '+', hexNumber first, hexNumber first + hexNumber length - 1⟩
    | _ => none

/-- The code of the script that goes by `name`, given without case, blanks, hyphens and low
lines. -/
def scriptCode? (name : String) : Option String :=
  (scriptNames.find? (·.2.contains name)).map (·.1)

/-- The code points of a script. -/
def rangesOfScript (code : String) : Ranges :=
  let wanted := code.toList
  (scripts.filter (·.code == wanted)).map fun run => (run.first, run.last)

/-- The code points that a script shares with others. -/
def rangesSharedBy (code : String) : Ranges :=
  let wanted := code.toList
  (sharedScripts.filter (·.codes.contains wanted)).map fun run => (run.first, run.last)

/-- The code points whose scripts are listed one by one. -/
def sharedRanges : Ranges :=
  sharedScripts.map fun run => (run.first, run.last)

end ThreatModel.Unicode
