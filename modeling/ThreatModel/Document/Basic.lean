import ThreatModel.Document.Content

/-!
Documents: trees whose nodes and keys are numbered in document order, a node before its children
and a key before its value's keys. The numbered tree never changes; verification writes tags and
properties into the table of keys beside it.
-/

namespace ThreatModel

/-- The number of a node. -/
structure NodeId where
  index : Nat
deriving DecidableEq, Repr, Inhabited

/-- The number of a key. -/
structure KeyId where
  index : Nat
deriving DecidableEq, Repr, Inhabited

/-- A node of a document with its number; mappings hold the numbers of their keys. -/
inductive Item
  | null (id : NodeId)
  | text (id : NodeId) (text : Text)
  | list (id : NodeId) (items : List Item)
  | map (id : NodeId) (entries : List (KeyId × Item))
deriving Inhabited

namespace Node

mutual

/-- How many nodes the tree has. -/
def nodeCount : Node → Nat
  | .null => 1
  | .text _ => 1
  | .list items => 1 + nodeCountOfItems items
  | .map entries => 1 + nodeCountOfEntries entries

def nodeCountOfItems : List Node → Nat
  | [] => 0
  | item :: rest => nodeCount item + nodeCountOfItems rest

def nodeCountOfEntries : List (Key × Node) → Nat
  | [] => 0
  | (_, value) :: rest => nodeCount value + nodeCountOfEntries rest

end

mutual

/-- The keys in document order. -/
def keys : Node → List Key
  | .null => []
  | .text _ => []
  | .list items => keysOfItems items
  | .map entries => keysOfEntries entries

def keysOfItems : List Node → List Key
  | [] => []
  | item :: rest => keys item ++ keysOfItems rest

def keysOfEntries : List (Key × Node) → List Key
  | [] => []
  | (key, value) :: rest => key :: (keys value ++ keysOfEntries rest)

end

mutual

/-- Number the tree, from the first node number and the first key number that are free. -/
def number (firstNode firstKey : Nat) : Node → Item
  | .null => .null ⟨firstNode⟩
  | .text leaf => .text ⟨firstNode⟩ leaf
  | .list items => .list ⟨firstNode⟩ (numberItems (firstNode + 1) firstKey items)
  | .map entries => .map ⟨firstNode⟩ (numberEntries (firstNode + 1) firstKey entries)

def numberItems (firstNode firstKey : Nat) : List Node → List Item
  | [] => []
  | item :: rest =>
      number firstNode firstKey item ::
        numberItems (firstNode + item.nodeCount) (firstKey + item.keys.length) rest

def numberEntries (firstNode firstKey : Nat) : List (Key × Node) → List (KeyId × Item)
  | [] => []
  | (_, value) :: rest =>
      (⟨firstKey⟩, number firstNode (firstKey + 1) value) ::
        numberEntries (firstNode + value.nodeCount) (firstKey + 1 + value.keys.length) rest

end

end Node

/-- Where a key stands: the mapping it belongs to, its value, and the keys around it, nearest
first. -/
structure Place where
  owner : NodeId
  value : Item
  enclosing : List KeyId
deriving Inhabited

namespace Item

def id : Item → NodeId
  | .null id => id
  | .text id _ => id
  | .list id _ => id
  | .map id _ => id

/-- The entries of a mapping; other nodes have none. -/
def entries : Item → List (KeyId × Item)
  | .map _ entries => entries
  | _ => []

def isMapping : Item → Bool
  | .map _ _ => true
  | _ => false

/-- The value of a text; other nodes have none. -/
def text? : Item → Option String
  | .text _ leaf => some leaf.value
  | _ => none

/-- Absent, blank text, or a list or mapping of nothing. -/
def isEmptyValue : Item → Bool
  | .null _ => true
  | .text _ leaf => leaf.isBlank
  | .list _ items => items.isEmpty
  | .map _ entries => entries.isEmpty

/-- The name of a node's kind. -/
def kind : Item → String
  | .null _ => "null"
  | .text _ _ => "text"
  | .list _ _ => "list"
  | .map _ _ => "mapping"

mutual

/-- The node and all nodes below it, in document order. -/
def subtrees : Item → List Item
  | .null id => [.null id]
  | .text id leaf => [.text id leaf]
  | .list id items => .list id items :: subtreesOfItems items
  | .map id entries => .map id entries :: subtreesOfEntries entries

def subtreesOfItems : List Item → List Item
  | [] => []
  | item :: rest => subtrees item ++ subtreesOfItems rest

def subtreesOfEntries : List (KeyId × Item) → List Item
  | [] => []
  | (_, value) :: rest => subtrees value ++ subtreesOfEntries rest

end

mutual

/-- The places of the keys below a node, in document order, inside the keys `enclosing` it. -/
def places (enclosing : List KeyId) : Item → List Place
  | .null _ => []
  | .text _ _ => []
  | .list _ items => placesOfItems enclosing items
  | .map id entries => placesOfEntries enclosing id entries

def placesOfItems (enclosing : List KeyId) : List Item → List Place
  | [] => []
  | item :: rest => places enclosing item ++ placesOfItems enclosing rest

def placesOfEntries (enclosing : List KeyId) (owner : NodeId) : List (KeyId × Item) → List Place
  | [] => []
  | (key, value) :: rest =>
      ⟨owner, value, enclosing⟩ ::
        (places (key :: enclosing) value ++ placesOfEntries enclosing owner rest)

end

mutual

/-- The texts of a text or of the elements of a list, nested lists included. Mappings add none. -/
def texts : Item → List String
  | .null _ => []
  | .text _ leaf => [leaf.value]
  | .list _ items => textsOfItems items
  | .map _ _ => []

def textsOfItems : List Item → List String
  | [] => []
  | item :: rest => texts item ++ textsOfItems rest

end

end Item

/-- A numbered tree with its keys. The tables `nodes` and `places` list what the tree holds, each at
its number. -/
structure Document where
  source : Node
  root : Item
  nodes : Array Item
  places : Array Place
  keys : Array Key
  root_eq : root = source.number 0 0
  nodes_eq : nodes = root.subtrees.toArray
  places_eq : places = (root.places []).toArray
  keys_size : keys.size = source.keys.length

namespace Document

/-- Number a tree. -/
def ofNode (source : Node) : Document where
  source := source
  root := source.number 0 0
  nodes := (source.number 0 0).subtrees.toArray
  places := ((source.number 0 0).places []).toArray
  keys := source.keys.toArray
  root_eq := rfl
  nodes_eq := rfl
  places_eq := rfl
  keys_size := by simp

instance : Inhabited Document := ⟨ofNode .null⟩

/-- The key of a number. -/
def key (doc : Document) (id : KeyId) : Key :=
  doc.keys[id.index]?.getD default

/-- Where a key stands. -/
def place (doc : Document) (id : KeyId) : Place :=
  doc.places[id.index]?.getD default

/-- The value of a key. -/
def valueOf (doc : Document) (id : KeyId) : Item := (doc.place id).value

/-- The mapping a key belongs to. -/
def ownerOf (doc : Document) (id : KeyId) : NodeId := (doc.place id).owner

/-- The nearest key around a key. -/
def parentOf? (doc : Document) (id : KeyId) : Option KeyId := (doc.place id).enclosing.head?

/-- A key and the keys around it, nearest first. -/
def ancestry (doc : Document) (id : KeyId) : List KeyId := id :: (doc.place id).enclosing

/-- The node of a number. -/
def node? (doc : Document) (id : NodeId) : Option Item := doc.nodes[id.index]?

/-- The entries of the mapping of a number. -/
def entriesOf (doc : Document) (id : NodeId) : List (KeyId × Item) :=
  ((doc.node? id).map Item.entries).getD []

/-- The numbers of all keys, in document order. -/
def keyIds (doc : Document) : List KeyId :=
  (List.range doc.keys.size).map KeyId.mk

/-- The text a key's value is. -/
def keyText? (doc : Document) (id : KeyId) : Option String := (doc.valueOf id).text?

/-- The texts a key's value holds. -/
def textsOf (doc : Document) (id : KeyId) : List String := (doc.valueOf id).texts

/-- What a field is called in messages. -/
def label (doc : Document) (id : KeyId) : String := (doc.key id).label

/-- The entry of a name in a mapping. -/
def lookup? (doc : Document) (mapping : Item) (name : String) : Option (KeyId × Item) :=
  mapping.entries.find? fun entry => (doc.key entry.1).name == name

/-- Add tags to a key. -/
def addTags (doc : Document) (id : KeyId) (tags : List String) : Document :=
  { doc with
    keys := doc.keys.modify id.index (·.addTags tags)
    keys_size := by simpa using doc.keys_size }

/-- Set a property of a key. -/
def setProperty (doc : Document) (id : KeyId) (name : String) (value : Json) : Document :=
  { doc with
    keys := doc.keys.modify id.index (·.setProperty name value)
    keys_size := by simpa using doc.keys_size }

mutual

/-- The tree below a node, with the keys as they are now. -/
def toNode (doc : Document) : Item → Node
  | .null _ => .null
  | .text _ leaf => .text leaf
  | .list _ items => .list (toItems doc items)
  | .map _ entries => .map (Mapping.ofEntries (toEntries doc entries))

def toItems (doc : Document) : List Item → List Node
  | [] => []
  | item :: rest => toNode doc item :: toItems doc rest

def toEntries (doc : Document) : List (KeyId × Item) → List (Key × Node)
  | [] => []
  | (key, value) :: rest => (doc.key key, toNode doc value) :: toEntries doc rest

end

mutual

/-- The plain JSON of the tree below a node. -/
def toJson (doc : Document) : Item → Json
  | .null _ => .null
  | .text _ leaf => .string leaf.value
  | .list _ items => .array (itemsToJson doc items)
  | .map _ entries => .object (entriesToJson doc entries)

def itemsToJson (doc : Document) : List Item → List Json
  | [] => []
  | item :: rest => toJson doc item :: itemsToJson doc rest

def entriesToJson (doc : Document) : List (KeyId × Item) → List (String × Json)
  | [] => []
  | (key, value) :: rest => ((doc.key key).name, toJson doc value) :: entriesToJson doc rest

end

end Document

end ThreatModel
