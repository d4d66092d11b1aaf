import ThreatModel.Properties
import ThreatModel.Unicode.Blank

/-!
Text leaves. A text carries provenance, such as where it was found; deriving a text from another
keeps it (`map`), and written forms leave it out.
-/

namespace ThreatModel

structure Text where
  value : String
  provenance : Properties String
deriving DecidableEq, Inhabited

namespace Text

/-- A text of no provenance. -/
def ofString (value : String) : Text := ⟨value, .empty⟩

/-- The text `f` makes of the value, with the same provenance. -/
def map (f : String → String) (text : Text) : Text := { text with value := f text.value }

/-- The value alone. -/
def plain (text : Text) : Text := .ofString text.value

def hasProvenance (text : Text) : Bool := !text.provenance.isEmpty

/-- Nothing but white space. -/
def isBlank (text : Text) : Bool := Unicode.isBlankText text.value

end Text

end ThreatModel
