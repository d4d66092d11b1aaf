/-!
Finding and replacing parts of a text. Occurrences are taken from left to right and do not overlap.
-/

namespace ThreatModel.Chars

/-- Replace the occurrences of `part`, which is not empty, after `skipped` characters that belong to
the last occurrence. -/
def substituteFrom (part replacement : List Char) : Nat → List Char → List Char
  | _, [] => []
  | skipped + 1, _ :: rest => substituteFrom part replacement skipped rest
  | 0, c :: rest =>
      if part.isPrefixOf (c :: rest) then
        replacement ++ substituteFrom part replacement (part.length - 1) rest
      else c :: substituteFrom part replacement 0 rest

/-- The text with every occurrence of `part` replaced. -/
def substitute (part replacement text : String) : String :=
  .ofList (substituteFrom part.toList replacement.toList 0 text.toList)

/-- `part` occurs in the characters. -/
def occurs (part : List Char) : List Char → Bool
  | [] => part.isEmpty
  | c :: rest => part.isPrefixOf (c :: rest) || occurs part rest

/-- `part` occurs in the text. -/
def containsText (text part : String) : Bool := occurs part.toList text.toList

end ThreatModel.Chars
