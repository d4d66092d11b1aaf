import ThreatModel.Properties
import ThreatModel.Chars.Substitute
import ThreatModel.Settings.Source

/-!
The wording of messages: a template for every kind of message, with names in braces where values are
put. No rule decides anything by it.
-/

namespace ThreatModel

/-- Templates by the kind of message. -/
structure Wording where
  templates : Properties String
deriving DecidableEq, Inhabited

namespace Wording

def empty : Wording := ⟨.empty⟩

/-- The English templates. -/
def builtin : Wording := ⟨.ofList [
  ("missing-mandatory", "Mandatory field '\x7bfield\x7d' is empty"),
  ("missing-mandatory-fix", "Fill in '\x7bfield\x7d'"),
  ("missing-conditional-mandatory",
    "Field '\x7bfield\x7d' must be filled in when '\x7bdepends-on\x7d' is '\x7bdepends-on-value\x7d'"),
  ("missing-conditional-mandatory-fix", "Fill in '\x7bfield\x7d'"),
  ("duplicate-value", "Value '\x7bvalue\x7d' of '\x7bfield\x7d' is not unique"),
  ("duplicate-value-fix", "Make '\x7bvalue\x7d' unique or merge the duplicate rows"),
  ("unresolved-reference",
    "Value '\x7bvalue\x7d' of '\x7bfield\x7d' does not refer to an existing entry"),
  ("unresolved-reference-fix", "Use a value listed in one of the referenced columns"),
  ("invalid-value", "Value '\x7bvalue\x7d' of '\x7bfield\x7d' is invalid"),
  ("invalid-value-fix", "Correct '\x7bfield\x7d': \x7bexpected\x7d"),
  ("valid-with-warning", "Value '\x7bvalue\x7d' of '\x7bfield\x7d' passes only some checks"),
  ("valid-with-warning-fix", "Check '\x7bfield\x7d': \x7bexpected\x7d"),
  ("asset-not-covered",
    "Asset '\x7basset\x7d' stored in '\x7bstorage\x7d' is not covered by any threat"),
  ("asset-not-covered-fix", "Add a threat for '\x7basset\x7d' in component '\x7bstorage\x7d'")]⟩

def get? (wording : Wording) (kind : String) : Option String :=
  wording.templates.get? kind

def insert (wording : Wording) (kind template : String) : Wording :=
  ⟨wording.templates.put kind template⟩

/-- The wording with the templates of `overrides` in place of its own. -/
def merged (wording overrides : Wording) : Wording :=
  ⟨wording.templates.putAll overrides.templates.entries⟩

/-- Put a value in place of a name in braces. -/
def fill (template : String) (entry : String × String) : String :=
  Chars.substitute ("\x7b" ++ entry.1 ++ "\x7d") entry.2 template

/-- The message of a kind: its template with the values put in, one name after the other. A kind
without a template shows itself and the values. -/
def message (wording : Wording) (kind : String) (values : List (String × String)) : String :=
  match wording.get? kind with
  | some template => values.foldl fill template
  | none =>
      if values.isEmpty then kind
      else
        let shown := values.map fun entry => entry.1 ++ "=" ++ entry.2
        kind ++ " (" ++ String.intercalate ", " shown ++ ")"

/-- Read templates by kind. -/
def read? (source : Source) : Option Wording := do
  let members ← source.members?
  let entries ← members.mapM fun member => (member.2.string?).map (member.1, ·)
  some ⟨.ofList entries⟩

def ofJson? (value : Json) : Option Wording := read? (.json value)

def toJson (wording : Wording) : Json :=
  .object (wording.templates.entries.map fun entry => (entry.1, .string entry.2))

end Wording

end ThreatModel
