import ThreatModel.Document.Search

/-!
Rows: the mappings among the elements of a list. The first key tagged as row identifier names its
row, and every other key of the row points at it; a row without one takes the identifier of the row
around it.
-/

namespace ThreatModel

namespace Item

/-- The key that names a row, if the node is a mapping that holds one. -/
def ownIdentifier? (identifies : KeyId → Bool) (item : Item) : Option KeyId :=
  if item.isMapping then (item.findKey? identifies).map (·.1) else none

mutual

/-- For every key below a node, in document order, the key that names its row; the naming key
itself has none. -/
def rowIds (identifies : KeyId → Bool) (inherited : Option KeyId) : Item → List (Option KeyId)
  | .null _ => []
  | .text _ _ => []
  | .list _ items => rowIdsOfItems identifies inherited items
  | .map _ entries => rowIdsOfEntries identifies inherited entries

def rowIdsOfItems (identifies : KeyId → Bool) (inherited : Option KeyId) :
    List Item → List (Option KeyId)
  | [] => []
  | item :: rest =>
      rowIds identifies ((item.ownIdentifier? identifies).or inherited) item ++
        rowIdsOfItems identifies inherited rest

def rowIdsOfEntries (identifies : KeyId → Bool) (inherited : Option KeyId) :
    List (KeyId × Item) → List (Option KeyId)
  | [] => []
  | (key, value) :: rest =>
      inherited.filter (· != key) ::
        (rowIds identifies inherited value ++ rowIdsOfEntries identifies inherited rest)

end

mutual

/-- The rows that have an identifier, with it, an enclosing row before the rows inside it. -/
def namedRows (identifies : KeyId → Bool) : Item → List (NodeId × KeyId)
  | .null _ => []
  | .text _ _ => []
  | .list _ items => namedRowsOfItems identifies items
  | .map _ entries => namedRowsOfEntries identifies entries

def namedRowsOfItems (identifies : KeyId → Bool) : List Item → List (NodeId × KeyId)
  | [] => []
  | item :: rest =>
      ((item.ownIdentifier? identifies).map fun key => (item.id, key)).toList ++
        (namedRows identifies item ++ namedRowsOfItems identifies rest)

def namedRowsOfEntries (identifies : KeyId → Bool) : List (KeyId × Item) → List (NodeId × KeyId)
  | [] => []
  | (_, value) :: rest => namedRows identifies value ++ namedRowsOfEntries identifies rest

end

end Item

/-- Which key names which row. -/
structure RowIndex where
  /-- For every key, the key that names its row. -/
  rowIds : Array (Option KeyId)
  /-- The named rows; of rows named by one key, the last counts. -/
  named : List (NodeId × KeyId)
deriving DecidableEq, Inhabited

namespace RowIndex

/-- The rows of a document. -/
def build (doc : Document) : RowIndex :=
  let identifies := fun id => (doc.key id).hasTag Tag.rowIdentifier
  ⟨(doc.root.rowIds identifies none).toArray, doc.root.namedRows identifies⟩

/-- The key that names the row of `key`. -/
def rowIdentifier? (index : RowIndex) (key : KeyId) : Option KeyId :=
  (index.rowIds[key.index]?).join

/-- The row that `identifier` names. -/
def row? (index : RowIndex) (identifier : KeyId) : Option NodeId :=
  (index.named.reverse.find? (·.2 == identifier)).map (·.1)

/-- The key that names `row`. -/
def identifierOf? (index : RowIndex) (row : NodeId) : Option KeyId :=
  (index.named.reverse.find? (·.1 == row)).map (·.2)

/-- How many keys name a row. -/
def count (index : RowIndex) : Nat :=
  (index.named.map (·.2)).eraseDups.length

/-- The key that names the row of `key`, a row identifier naming its own. -/
def identifierFor? (index : RowIndex) (doc : Document) (key : KeyId) : Option KeyId :=
  if (doc.key key).hasTag Tag.rowIdentifier then some key else index.rowIdentifier? key

/-- The text of the key that names the row of `key`. -/
def label? (index : RowIndex) (doc : Document) (key : KeyId) : Option String :=
  (index.identifierFor? doc key).bind doc.keyText?

end RowIndex

end ThreatModel
