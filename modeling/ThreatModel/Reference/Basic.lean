import ThreatModel.Document.Basic
import ThreatModel.Unicode.Blank
import ThreatModel.Unicode.Lowercase

/-!
Reference tags: `family/data-tag/field-tag` or `family/data-tag/field-tag/comparison`. A tag names a
section, a column of it, and how a value is compared with the texts of that column.
-/

namespace ThreatModel

/-- The form in which texts are compared: without white space around it, in lower case. -/
def normalise (value : String) : String :=
  Unicode.lowercase (Unicode.trim value)

structure ReferenceTag where
  /-- The tag as it is written. -/
  text : String
  /-- Which kind of reference it is. -/
  family : String
  /-- The tag of the section that is searched. -/
  dataTag : String
  /-- The tag of the column that is searched. -/
  fieldTag : String
  comparison : String
deriving DecidableEq, Repr, Inhabited

/-- The parts of a text between separators. -/
def splitAtChar (separator : Char) : List Char → List (List Char)
  | [] => [[]]
  | c :: rest =>
      if c = separator then [] :: splitAtChar separator rest
      else
        match splitAtChar separator rest with
        | [] => [[c]]
        | first :: others => (c :: first) :: others

/-- A comparison of the caller's: the tag, the value, the key found and its text. -/
abbrev Comparison := ReferenceTag → String → KeyId → String → Bool

namespace ReferenceTag

/-- The comparison of normalised texts; a tag without a comparison means it. -/
def equals : String := "equals"

/-- The value ends with the text found. -/
def endsWith : String := "endswith"

/-- Read a tag of three or four segments, none of them empty. -/
def parse? (text : String) : Option ReferenceTag :=
  match (splitAtChar '/' text.toList).map String.ofList with
  | [family, dataTag, fieldTag] => build family dataTag fieldTag equals
  | [family, dataTag, fieldTag, comparison] => build family dataTag fieldTag comparison
  | _ => none
where
  build (family dataTag fieldTag comparison : String) : Option ReferenceTag :=
    if [family, dataTag, fieldTag, comparison].any String.isEmpty then none
    else some ⟨text, family, dataTag, fieldTag, comparison⟩

/-- The reference tags of a family that a key carries. -/
def ofKey (key : Key) (family : String) : List ReferenceTag :=
  (key.tags.filterMap parse?).filter (·.family == family)

/-- The comparison needs no caller. -/
def isBuiltin (tag : ReferenceTag) : Bool :=
  tag.comparison == equals || tag.comparison == endsWith

/-- Whether `value` refers to `found`, the text of the key `key`. Comparisons that are not built in
are left to `custom`, and without it nothing is accepted. -/
def accepts (tag : ReferenceTag) (custom : Option Comparison) (value : String) (key : KeyId)
    (found : String) : Bool :=
  if tag.comparison = equals then normalise value == normalise found
  else if tag.comparison = endsWith then
    let ending := normalise found
    !ending.isEmpty && ThreatModel.endsWith (normalise value) ending
  else
    match custom with
    | some compare => compare tag value key found
    | none => false

end ReferenceTag

end ThreatModel
