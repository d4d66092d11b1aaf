import ThreatModel.Unicode.Blank

/-!
Lines of a text. A line ends with a line feed, which a carriage return may precede; a text that ends
with a line feed has no further line after it.
-/

namespace ThreatModel.Chars

/-- The characters up to the first line feed, whether there is one, and what follows it. -/
def takeLine : List Char → List Char × Bool × List Char
  | [] => ([], false, [])
  | c :: rest =>
      if c = '\n' then ([], true, rest)
      else
        let (line, ended, after) := takeLine rest
        (c :: line, ended, after)

/-- A line without the carriage return at its end. -/
def dropReturn (line : List Char) : List Char :=
  if line.getLast? = some '\r' then line.dropLast else line

/-- The lines of a text; `fuel` bounds their number. -/
def linesOf : Nat → List Char → List (List Char)
  | 0, _ => []
  | _, [] => []
  | fuel + 1, chars =>
      let (line, ended, after) := takeLine chars
      (if ended then dropReturn line else line) :: linesOf fuel after

def lines (chars : List Char) : List (List Char) :=
  linesOf (chars.length + 1) chars

/-- The lines without white space around them, blank ones left out. -/
def trimmedLines (text : String) : List String :=
  (((lines text.toList).map Unicode.trimChars).filter (!·.isEmpty)).map .ofList

/-- The first line without white space around it, if there is a line. -/
def firstLine? (text : String) : Option String :=
  (lines text.toList).head?.map fun line => .ofList (Unicode.trimChars line)

end ThreatModel.Chars
