import ThreatModel.Unicode.Ranges
import ThreatModel.Unicode.CategoryData

/-!
General categories of code points, by their two-letter codes, and the groups that one letter or a
long name stands for.
-/

namespace ThreatModel.Unicode

/-- Code points from `first` to `last`, all under one code. -/
structure CodeRun where
  first : Nat
  last : Nat
  code : List Char

/-- Runs that follow one another from `start` on, each a code of `width` letters and its length. -/
def codeRuns (width start : Nat) : List (List Char) → List CodeRun
  | [] => []
  | word :: rest =>
      let length := hexNumber (word.drop width)
      ⟨start, start + length - 1, word.take width⟩ :: codeRuns width (start + length) rest

/-- The general category of every code point. -/
def categories : List CodeRun :=
  codeRuns 2 0 (tableWords categoryRuns)

/-- The code points whose category satisfies `wanted`. -/
def rangesOfCategory (wanted : List Char → Bool) : Ranges :=
  (categories.filter fun run => wanted run.code).map fun run => (run.first, run.last)

/-- The names of the categories and of their groups, without case, blanks, hyphens and low lines;
each with the codes it covers. -/
def categoryNames : List (List String × List String) := [
  (["c", "other"], ["Cc", "Cf", "Cn", "Co"]),
  (["cc", "control", "cntrl"], ["Cc"]),
  (["cf", "format"], ["Cf"]),
  (["cn", "unassigned"], ["Cn"]),
  (["co", "privateuse"], ["Co"]),
  (["l", "letter"], ["Ll", "Lm", "Lo", "Lt", "Lu"]),
  (["lc", "casedletter"], ["Ll", "Lt", "Lu"]),
  (["ll", "lowercaseletter"], ["Ll"]),
  (["lm", "modifierletter"], ["Lm"]),
  (["lo", "otherletter"], ["Lo"]),
  (["lt", "titlecaseletter"], ["Lt"]),
  (["lu", "uppercaseletter"], ["Lu"]),
  (["m", "mark", "combiningmark"], ["Mc", "Me", "Mn"]),
  (["mc", "spacingmark"], ["Mc"]),
  (["me", "enclosingmark"], ["Me"]),
  (["mn", "nonspacingmark"], ["Mn"]),
  (["n", "number"], ["Nd", "Nl", "No"]),
  (["nd", "decimalnumber", "digit"], ["Nd"]),
  (["nl", "letternumber"], ["Nl"]),
  (["no", "othernumber"], ["No"]),
  (["p", "punctuation", "punct"], ["Pc", "Pd", "Pe", "Pf", "Pi", "Po", "Ps"]),
  (["pc", "connectorpunctuation"], ["Pc"]),
  (["pd", "dashpunctuation"], ["Pd"]),
  (["pe", "closepunctuation"], ["Pe"]),
  (["pf", "finalpunctuation"], ["Pf"]),
  (["pi", "initialpunctuation"], ["Pi"]),
  (["po", "otherpunctuation"], ["Po"]),
  (["ps", "openpunctuation"], ["Ps"]),
  (["s", "symbol"], ["Sc", "Sk", "Sm", "So"]),
  (["sc", "currencysymbol"], ["Sc"]),
  (["sk", "modifiersymbol"], ["Sk"]),
  (["sm", "mathsymbol"], ["Sm"]),
  (["so", "othersymbol"], ["So"]),
  (["z", "separator"], ["Zl", "Zp", "Zs"]),
  (["zl", "lineseparator"], ["Zl"]),
  (["zp", "paragraphseparator"], ["Zp"]),
  (["zs", "spaceseparator"], ["Zs"])]

/-- The code points under one of the codes. -/
def rangesOfCodes (codes : List String) : Ranges :=
  let wanted := codes.map String.toList
  rangesOfCategory wanted.contains

/-- Numbers: decimal digits, letter numbers and other numbers. -/
def numbers : Ranges := rangesOfCodes ["Nd", "Nl", "No"]

/-- Decimal digits. -/
def decimalDigits : Ranges := rangesOfCodes ["Nd"]

/-- Marks. -/
def marks : Ranges := rangesOfCodes ["Mc", "Me", "Mn"]

/-- Connecting punctuation. -/
def connectors : Ranges := rangesOfCodes ["Pc"]

/-- Code points that show nothing by themselves: controls, formats, surrogates, private use,
unassigned code points and all separators but the plain blank. -/
def unprintable : Ranges :=
  (rangesOfCodes ["Cc", "Cf", "Cn", "Co", "Cs", "Zl", "Zp", "Zs"]).filter (· != (0x20, 0x20))

end ThreatModel.Unicode
