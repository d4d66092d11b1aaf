import ThreatModel.Document.Basic

/-!
Finding keys below a node. At every mapping its own keys come first, then the keys below its
values, one value after the other.
-/

namespace ThreatModel

namespace Item

mutual

/-- The first key that satisfies `wanted`, with its value. -/
def findKey? (wanted : KeyId → Bool) : Item → Option (KeyId × Item)
  | .null _ => none
  | .text _ _ => none
  | .list _ items => findKeyInItems? wanted items
  | .map _ entries =>
      (entries.find? fun entry => wanted entry.1).or (findKeyInValues? wanted entries)

def findKeyInItems? (wanted : KeyId → Bool) : List Item → Option (KeyId × Item)
  | [] => none
  | item :: rest => (findKey? wanted item).or (findKeyInItems? wanted rest)

def findKeyInValues? (wanted : KeyId → Bool) : List (KeyId × Item) → Option (KeyId × Item)
  | [] => none
  | (_, value) :: rest => (findKey? wanted value).or (findKeyInValues? wanted rest)

end

mutual

/-- All keys that satisfy `wanted`, with their values. -/
def findKeys (wanted : KeyId → Bool) : Item → List (KeyId × Item)
  | .null _ => []
  | .text _ _ => []
  | .list _ items => findKeysInItems wanted items
  | .map _ entries =>
      (entries.filter fun entry => wanted entry.1) ++ findKeysInValues wanted entries

def findKeysInItems (wanted : KeyId → Bool) : List Item → List (KeyId × Item)
  | [] => []
  | item :: rest => findKeys wanted item ++ findKeysInItems wanted rest

def findKeysInValues (wanted : KeyId → Bool) : List (KeyId × Item) → List (KeyId × Item)
  | [] => []
  | (_, value) :: rest => findKeys wanted value ++ findKeysInValues wanted rest

end

end Item

namespace Document

/-- The first key below `node` that carries `tag`. -/
def findTagged? (doc : Document) (node : Item) (tag : String) : Option (KeyId × Item) :=
  node.findKey? fun id => (doc.key id).hasTag tag

/-- All keys below `node` that carry `tag`. -/
def findAllTagged (doc : Document) (node : Item) (tag : String) : List (KeyId × Item) :=
  node.findKeys fun id => (doc.key id).hasTag tag

/-- All keys below `node` with a tag that satisfies `wanted`. -/
def findAllWithTag (doc : Document) (node : Item) (wanted : String → Bool) :
    List (KeyId × Item) :=
  node.findKeys fun id => (doc.key id).tags.any wanted

/-- The nearest key, from `id` outwards, that names a section. -/
def sectionKey? (doc : Document) (id : KeyId) : Option KeyId :=
  (doc.ancestry id).find? fun key => (doc.key key).section?.isSome

/-- The name of the section a key lies in. -/
def sectionName? (doc : Document) (id : KeyId) : Option String :=
  (doc.sectionKey? id).bind fun key => (doc.key key).section?

/-- The first data tag of the nearest key, from `id` outwards, that has one. -/
def dataTag? (doc : Document) (id : KeyId) : Option String :=
  (doc.ancestry id).findSome? fun key => (doc.key key).dataTags.head?

end Document

end ThreatModel
