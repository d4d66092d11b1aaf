import ThreatModel.Document.Node
import ThreatModel.Json.Printer

/-!
Between trees and JSON. Scalars become text. An object with a string under `#text` is a text whose
other string members are its provenance; every other object is a mapping. Writing a tree leaves out
provenance, tags and properties, whether it is written as it stands (`toJson`) or as a JSON value that is
built first (`toValue`).
-/

namespace ThreatModel

/-- The member that makes an object a text. -/
def textMember : String := "#text"

/-- The string members but `#text`. -/
def provenanceOf (members : List (String × Json)) : Properties String :=
  .ofList (members.filterMap fun member =>
    match member.2 with
    | .string value => if member.1 = textMember then none else some (member.1, value)
    | _ => none)

/-- Take the member `name` out, put the last one in its place, and append the one taken out. -/
def swapToEnd (name : String) (members : List (Key × Node)) : List (Key × Node) :=
  let before := members.takeWhile (·.1.name != name)
  match members.dropWhile (·.1.name != name) with
  | [] => members
  | taken :: after =>
      match after.getLast? with
      | none => before ++ [taken]
      | some last => before ++ last :: (after.dropLast ++ [taken])

namespace Node

mutual

/-- The tree of extracted content. -/
def ofJson : Json → Node
  | .null => .null
  | .bool value => .ofString (if value then "true" else "false")
  | .number value => .ofString value.write
  | .string value => .ofString value
  | .array items => .list (ofItems items)
  | .object members =>
      match Json.lookup? members textMember with
      | some (.string value) => .text ⟨value, provenanceOf members⟩
      | some _ => .map (Mapping.ofEntries (swapToEnd textMember (ofMembers members)))
      | none => .map (Mapping.ofEntries (ofMembers members))

def ofItems : List Json → List Node
  | [] => []
  | item :: rest => ofJson item :: ofItems rest

def ofMembers : List (String × Json) → List (Key × Node)
  | [] => []
  | (name, value) :: rest => (Key.ofName name, ofJson value) :: ofMembers rest

end

mutual

/-- The tree as plain JSON. -/
def toJson : Node → Json
  | .null => .null
  | .text leaf => .string leaf.value
  | .list items => .array (itemsToJson items)
  | .map entries => .object (entriesToJson entries)

def itemsToJson : List Node → List Json
  | [] => []
  | item :: rest => toJson item :: itemsToJson rest

def entriesToJson : List (Key × Node) → List (String × Json)
  | [] => []
  | (key, value) :: rest => (key.name, toJson value) :: entriesToJson rest

end

mutual

/-- The tree as a JSON value, whose objects are built by putting one member after the other. -/
def toValue : Node → Json
  | .null => .null
  | .text leaf => .string leaf.value
  | .list items => .array (itemsToValues items)
  | .map entries => .object (putEntries [] entries)

def itemsToValues : List Node → List Json
  | [] => []
  | item :: rest => toValue item :: itemsToValues rest

def putEntries (members : List (String × Json)) : List (Key × Node) → List (String × Json)
  | [] => members
  | (key, value) :: rest => putEntries (Json.putMember members key.name (toValue value)) rest

end

end Node

end ThreatModel
