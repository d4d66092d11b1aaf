import ThreatModel.Json.Value

/-!
Configuration as it was written, before it is read into a type. JSON values have settled types. In
YAML a plain scalar has none yet: where a string is wanted it is its own text, and elsewhere it is
what it looks like (`settle`).
-/

namespace ThreatModel

inductive Source
  | json (value : Json)
  /-- A scalar without quotes. -/
  | plain (text : String) (looksLike : Json)
  | list (items : List Source)
  | map (entries : List (String × Source))
deriving Inhabited

namespace Source

mutual

/-- The value with all types settled. A repeated name keeps its place and takes the last value. -/
def settle : Source → Json
  | .json value => value
  | .plain _ looksLike => looksLike
  | .list items => .array (settleItems items)
  | .map entries => .object (settleEntries [] entries)

def settleItems : List Source → List Json
  | [] => []
  | item :: rest => settle item :: settleItems rest

def settleEntries (done : List (String × Json)) : List (String × Source) → List (String × Json)
  | [] => done
  | (name, value) :: rest => settleEntries (Json.putMember done name (settle value)) rest

end

mutual

/-- The source with the types of all scalars settled. Members may still repeat. -/
def settled : Source → Source
  | .json value => .json value
  | .plain _ looksLike => .json looksLike
  | .list items => .list (settledItems items)
  | .map entries => .map (settledEntries entries)

def settledItems : List Source → List Source
  | [] => []
  | item :: rest => settled item :: settledItems rest

def settledEntries : List (String × Source) → List (String × Source)
  | [] => []
  | (name, value) :: rest => (name, settled value) :: settledEntries rest

end

mutual

/-- How deep lists and maps are nested. -/
def height : Source → Nat
  | .json value => value.height
  | .plain _ _ => 0
  | .list items => heightOfItems items + 1
  | .map entries => heightOfEntries entries + 1

def heightOfItems : List Source → Nat
  | [] => 0
  | item :: rest => max (height item) (heightOfItems rest)

def heightOfEntries : List (String × Source) → Nat
  | [] => 0
  | (_, value) :: rest => max (height value) (heightOfEntries rest)

end

def string? : Source → Option String
  | .json (.string value) => some value
  | .plain text _ => some text
  | _ => none

def bool? : Source → Option Bool
  | .json (.bool value) => some value
  | .plain _ (.bool value) => some value
  | _ => none

def isNull : Source → Bool
  | .json .null => true
  | .plain _ .null => true
  | _ => false

/-- The elements of a list; a plain scalar of no characters is a list of none. -/
def items? : Source → Option (List Source)
  | .plain "" _ => some []
  | .json (.array items) => some (items.map .json)
  | .list items => some items
  | _ => none

/-- The members of an object, in order; a plain scalar of no characters is an object of none. -/
def members? : Source → Option (List (String × Source))
  | .plain "" _ => some []
  | .json (.object members) => some (members.map fun member => (member.1, .json member.2))
  | .map entries => some entries
  | _ => none

/-- A value that may be absent, as null is. -/
def optional? (read : Source → Option α) (source : Source) : Option (Option α) :=
  if source.isNull then some none else (read source).map some

/-- All elements of a list, each read alike. -/
def listOf? (read : Source → Option α) (source : Source) : Option (List α) :=
  source.items?.bind (·.mapM read)

def strings? (source : Source) : Option (List String) :=
  source.listOf? string?

/-- A choice among words. An object whose only member is the word, with null, stands for it too. -/
def choice? (words : List (String × α)) (source : Source) : Option α :=
  match source with
  | .json (.object [(word, .null)]) => (words.find? (·.1 == word)).map (·.2)
  | _ => source.string?.bind fun word => (words.find? (·.1 == word)).map (·.2)

/-- The fields of a record: those of an object under their names, or those of an array by their
order. Names beyond `fields` are refused when `closed`; a field twice is refused. -/
def record? (fields : List String) (closed : Bool) (source : Source) :
    Option (List (String × Source)) :=
  match source with
  | .json (.array items) =>
      if items.length ≤ fields.length then some (fields.zip (items.map .json)) else none
  | _ => do
      let members ← source.members?
      let known := members.filter fun member => fields.contains member.1
      let repeated := fields.any fun field => 1 < known.countP (·.1 == field)
      if repeated || (closed && known.length != members.length) then none else some known

/-- A field that has to be there. -/
def required? (record : List (String × Source)) (field : String) (read : Source → Option α) :
    Option α :=
  (record.find? (·.1 == field)).bind fun member => read member.2

/-- A field with a value for its absence. -/
def withDefault? (record : List (String × Source)) (field : String) (read : Source → Option α)
    (default : α) : Option α :=
  match record.find? (·.1 == field) with
  | some member => read member.2
  | none => some default

end Source

end ThreatModel
