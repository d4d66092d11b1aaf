import ThreatModel.Decimal.Binary64

/-!
JSON values. Objects keep their members in order, and integers stay apart from fractions. Reading a
member takes the first of its name; putting one keeps the place of the name.
-/

namespace ThreatModel

/-- A number as written: an integer of 64 bits, with or without sign, or a double. -/
inductive Number
  | integer (value : Int)
  | real (value : Decimal.Binary64)
deriving DecidableEq, Repr

inductive Json
  | null
  | bool (value : Bool)
  | number (value : Number)
  | string (value : String)
  | array (items : List Json)
  | object (members : List (String × Json))
deriving Repr, Inhabited

namespace Json

/-- Put a member: a name that is present keeps its place and takes the value. -/
def putMember (members : List (String × Json)) (name : String) (value : Json) :
    List (String × Json) :=
  if members.any (·.1 == name) then
    members.map fun member => if member.1 == name then (name, value) else member
  else members ++ [(name, value)]

/-- The value under a name. -/
def lookup? (members : List (String × Json)) (name : String) : Option Json :=
  (members.find? (·.1 == name)).map (·.2)

/-- The member of an object; other values have none. -/
def member? : Json → String → Option Json
  | .object members, name => lookup? members name
  | _, _ => none

def asString? : Json → Option String
  | .string value => some value
  | _ => none

def asBool? : Json → Option Bool
  | .bool value => some value
  | _ => none

/-- A natural number of at most 64 bits, written as an integer. -/
def asNat? : Json → Option Nat
  | .number (.integer (.ofNat value)) => some value
  | _ => none

mutual

/-- How deep arrays and objects are nested. -/
def height : Json → Nat
  | .null => 0
  | .bool _ => 0
  | .number _ => 0
  | .string _ => 0
  | .array items => heightOfItems items + 1
  | .object members => heightOfMembers members + 1

def heightOfItems : List Json → Nat
  | [] => 0
  | item :: rest => max (height item) (heightOfItems rest)

def heightOfMembers : List (String × Json) → Nat
  | [] => 0
  | (_, value) :: rest => max (height value) (heightOfMembers rest)

end

/-- Strings as a JSON array. -/
def ofStrings (values : List String) : Json :=
  .array (values.map .string)

/-- A natural number as JSON. -/
def ofNat (value : Nat) : Json :=
  .number (.integer value)

end Json

end ThreatModel
