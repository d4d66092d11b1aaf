import ThreatModel.Proofs.Document.Nesting

/-!
Taking a tree in, slot by slot. A node's number is given out before its children are seen and its slot
is filled after them; a key's slot is entered before its value is taken in and patched after it. The two
tables that grow this way are those of the numbered tree: taking in a node appends the slots of its
subtrees and keys to the tables as they are, and changes nothing before them.
-/

namespace ThreatModel

/-- A node of an arena; its children are known by number. -/
inductive Slot
  | null
  | text (leaf : Text)
  | list (items : List NodeId)
  | map (entries : List (KeyId × NodeId))

structure KeySlot where
  key : Key
  owner : NodeId
  parent? : Option KeyId
  value : NodeId

structure Arena where
  nodes : List Slot
  keys : List KeySlot

namespace Arena

def empty : Arena := ⟨[], []⟩

def nextNode (arena : Arena) : NodeId := ⟨arena.nodes.length⟩

def nextKey (arena : Arena) : KeyId := ⟨arena.keys.length⟩

/-- Give out the next node number. What stands there is for `fill` to say. -/
def reserve (arena : Arena) : Arena := { arena with nodes := arena.nodes ++ [.null] }

def fill (arena : Arena) (id : NodeId) (slot : Slot) : Arena :=
  { arena with nodes := arena.nodes.set id.index slot }

/-- Enter a key whose value has no number yet. -/
def enter (arena : Arena) (key : Key) (owner : NodeId) (parent? : Option KeyId) : Arena :=
  { arena with keys := arena.keys ++ [⟨key, owner, parent?, owner⟩] }

def patch (arena : Arena) (key : KeyId) (value : NodeId) : Arena :=
  { arena with keys := arena.keys.modify key.index fun slot => { slot with value := value } }

mutual

/-- Take in a node inside the key `parent?`; the number is the one it got. -/
def intern (parent? : Option KeyId) (arena : Arena) : Node → NodeId × Arena
  | .null => (arena.nextNode, arena.reserve.fill arena.nextNode .null)
  | .text leaf => (arena.nextNode, arena.reserve.fill arena.nextNode (.text leaf))
  | .list items =>
      let (ids, filled) := internItems parent? arena.reserve items
      (arena.nextNode, filled.fill arena.nextNode (.list ids))
  | .map entries =>
      let (ids, filled) := internEntries arena.nextNode parent? arena.reserve entries
      (arena.nextNode, filled.fill arena.nextNode (.map ids))

def internItems (parent? : Option KeyId) (arena : Arena) : List Node → List NodeId × Arena
  | [] => ([], arena)
  | item :: rest =>
      let (id, filled) := intern parent? arena item
      let (ids, complete) := internItems parent? filled rest
      (id :: ids, complete)

def internEntries (owner : NodeId) (parent? : Option KeyId) (arena : Arena) :
    List (Key × Node) → List (KeyId × NodeId) × Arena
  | [] => ([], arena)
  | (key, value) :: rest =>
      let (id, filled) := intern (some arena.nextKey) (arena.enter key owner parent?) value
      let (ids, complete) := internEntries owner parent? (filled.patch arena.nextKey id) rest
      ((arena.nextKey, id) :: ids, complete)

end

def append (arena : Arena) (nodes : List Slot) (keys : List KeySlot) : Arena :=
  ⟨arena.nodes ++ nodes, arena.keys ++ keys⟩

variable {arena : Arena} {nodes : List Slot} {keys : List KeySlot}

theorem append_append (moreNodes : List Slot) (moreKeys : List KeySlot) :
    (arena.append nodes keys).append moreNodes moreKeys =
      arena.append (nodes ++ moreNodes) (keys ++ moreKeys) := by
  simp [append]

/-- The slot that was reserved is filled, whatever has been appended since. -/
theorem fill_reserved (slot : Slot) :
    (arena.reserve.append nodes keys).fill arena.nextNode slot =
      arena.append (slot :: nodes) keys := by
  simp [append, fill, reserve, nextNode]

theorem patch_entered (key : Key) (owner value : NodeId) (parent? : Option KeyId) :
    ((arena.enter key owner parent?).append nodes keys).patch arena.nextKey value =
      arena.append nodes (⟨key, owner, parent?, value⟩ :: keys) := by
  simp [append, patch, enter, nextKey, List.modify_eq_set_getElem?]

@[simp] theorem length_nodes_reserve : arena.reserve.nodes.length = arena.nodes.length + 1 := by
  simp [reserve]

@[simp] theorem length_keys_reserve : arena.reserve.keys.length = arena.keys.length := rfl

@[simp] theorem length_nodes_enter (key : Key) (owner : NodeId) (parent? : Option KeyId) :
    (arena.enter key owner parent?).nodes.length = arena.nodes.length := rfl

@[simp] theorem length_keys_enter (key : Key) (owner : NodeId) (parent? : Option KeyId) :
    (arena.enter key owner parent?).keys.length = arena.keys.length + 1 := by
  simp [enter]

end Arena

def Item.slot : Item → Slot
  | .null _ => .null
  | .text _ leaf => .text leaf
  | .list _ items => .list (items.map Item.id)
  | .map _ entries => .map (entries.map fun entry => (entry.1, entry.2.id))

def KeySlot.ofPlace (key : Key) (place : Place) : KeySlot :=
  ⟨key, place.owner, place.enclosing.head?, place.value.id⟩

/-- The tables of a document, without the tree that they were read off. -/
def Document.arena (doc : Document) : Arena :=
  ⟨doc.nodes.toList.map Item.slot, List.zipWith KeySlot.ofPlace doc.keys.toList doc.places.toList⟩

namespace Node

@[simp] theorem id_number (node : Node) (firstNode firstKey : Nat) :
    (node.number firstNode firstKey).id = ⟨firstNode⟩ := by
  cases node <;> rfl

theorem length_subtrees_number (node : Node) (firstNode firstKey : Nat) :
    (node.number firstNode firstKey).subtrees.length = node.nodeCount := by
  simpa using congrArg List.length (node.indices_number firstKey firstNode)

theorem length_places_number (enclosing : List KeyId) (node : Node) (firstNode firstKey : Nat) :
    ((node.number firstNode firstKey).places enclosing).length = node.keys.length := by
  rw [Item.places_eq_placements]
  simpa using congrArg List.length (Item.placements_number enclosing node firstNode firstKey)

end Node

namespace Arena

def extend (arena : Arena) (items : List Item) (keys : List Key) (places : List Place) : Arena :=
  arena.append (items.map Item.slot) (List.zipWith KeySlot.ofPlace keys places)

variable {arena : Arena} {items : List Item} {keys : List Key} {places : List Place}

theorem extend_nil (arena : Arena) : arena.extend [] [] [] = arena := by
  simp [extend, append]

theorem extend_extend (moreItems : List Item) (moreKeys : List Key) (morePlaces : List Place)
    (paired : keys.length = places.length) :
    (arena.extend items keys places).extend moreItems moreKeys morePlaces =
      arena.extend (items ++ moreItems) (keys ++ moreKeys) (places ++ morePlaces) := by
  rw [extend, extend, extend, append_append, List.map_append, List.zipWith_append paired]

theorem length_nodes_extend :
    (arena.extend items keys places).nodes.length = arena.nodes.length + items.length := by
  simp [extend, append]

theorem length_keys_extend (paired : keys.length = places.length) :
    (arena.extend items keys places).keys.length = arena.keys.length + keys.length := by
  simp [extend, append, paired]

theorem fill_extend (item : Item) :
    (arena.reserve.extend items keys places).fill arena.nextNode item.slot =
      arena.extend (item :: items) keys places :=
  fill_reserved item.slot

theorem fill_reserve (arena : Arena) (item : Item) :
    arena.reserve.fill arena.nextNode item.slot = arena.extend [item] [] [] := by
  rw [← fill_extend, extend_nil]

theorem patch_extend (key : Key) (place : Place) :
    ((arena.enter key place.owner place.enclosing.head?).extend items keys places).patch
        arena.nextKey place.value.id =
      arena.extend items (key :: keys) (place :: places) :=
  patch_entered key place.owner place.value.id place.enclosing.head?

mutual

/-- Taking in a node appends the slots of its numbered subtrees and keys, and no slot before them
changes. -/
theorem intern_eq (enclosing : List KeyId) : ∀ (node : Node) (arena : Arena),
    arena.intern enclosing.head? node = (arena.nextNode,
      arena.extend (node.number arena.nodes.length arena.keys.length).subtrees node.keys
        ((node.number arena.nodes.length arena.keys.length).places enclosing))
  | .null, arena => congrArg (arena.nextNode, ·) (arena.fill_reserve (.null arena.nextNode))
  | .text leaf, arena =>
      congrArg (arena.nextNode, ·) (arena.fill_reserve (.text arena.nextNode leaf))
  | .list items, arena => by
      have taken := internItems_eq enclosing items arena.reserve
      rw [length_nodes_reserve, length_keys_reserve] at taken
      rw [intern, taken]
      exact congrArg (arena.nextNode, ·) (fill_extend (.list arena.nextNode _))
  | .map entries, arena => by
      have taken := internEntries_eq arena.nextNode enclosing entries arena.reserve
      rw [length_nodes_reserve, length_keys_reserve] at taken
      rw [intern, taken]
      exact congrArg (arena.nextNode, ·) (fill_extend (.map arena.nextNode _))

theorem internItems_eq (enclosing : List KeyId) : ∀ (items : List Node) (arena : Arena),
    arena.internItems enclosing.head? items =
      ((Node.numberItems arena.nodes.length arena.keys.length items).map Item.id,
        arena.extend
          (Item.subtreesOfItems (Node.numberItems arena.nodes.length arena.keys.length items))
          (Node.keysOfItems items)
          (Item.placesOfItems enclosing
            (Node.numberItems arena.nodes.length arena.keys.length items)))
  | [], arena => congrArg ([], ·) arena.extend_nil.symm
  | item :: rest, arena => by
      have paired := (item.length_places_number enclosing arena.nodes.length arena.keys.length).symm
      have taken := internItems_eq enclosing rest
      rw [internItems, intern_eq enclosing item arena]
      simp only [taken, length_nodes_extend, length_keys_extend paired, extend_extend _ _ _ paired,
        Node.length_subtrees_number]
      rw [Node.numberItems, List.map_cons, Node.id_number]
      rfl

theorem internEntries_eq (owner : NodeId) (enclosing : List KeyId) :
    ∀ (entries : List (Key × Node)) (arena : Arena),
      arena.internEntries owner enclosing.head? entries =
        ((Node.numberEntries arena.nodes.length arena.keys.length entries).map fun entry =>
            (entry.1, entry.2.id),
          arena.extend
            (Item.subtreesOfEntries
              (Node.numberEntries arena.nodes.length arena.keys.length entries))
            (Node.keysOfEntries entries)
            (Item.placesOfEntries enclosing owner
              (Node.numberEntries arena.nodes.length arena.keys.length entries)))
  | [], arena => congrArg ([], ·) arena.extend_nil.symm
  | (key, value) :: rest, arena => by
      let place : Place :=
        ⟨owner, value.number arena.nodes.length (arena.keys.length + 1), enclosing⟩
      let within := place.value.places (arena.nextKey :: enclosing)
      have taken : (arena.enter key owner enclosing.head?).intern (some arena.nextKey) value =
          (place.value.id, (arena.enter key owner enclosing.head?).extend place.value.subtrees
            value.keys within) := by
        have taken := intern_eq (arena.nextKey :: enclosing) value
          (arena.enter key owner enclosing.head?)
        rw [length_nodes_enter, length_keys_enter] at taken
        rw [Node.id_number]
        exact taken
      have paired : (key :: value.keys).length = (place :: within).length :=
        congrArg (· + 1) (value.length_places_number _ _ _).symm
      have others := internEntries_eq owner enclosing rest
        (arena.extend place.value.subtrees (key :: value.keys) (place :: within))
      rw [length_nodes_extend, length_keys_extend paired, extend_extend _ _ _ paired,
        Node.length_subtrees_number, List.length_cons, Nat.add_comm value.keys.length 1,
        ← Nat.add_assoc] at others
      have patched : ((arena.enter key owner enclosing.head?).extend place.value.subtrees value.keys
          within).patch arena.nextKey place.value.id =
            arena.extend place.value.subtrees (key :: value.keys) (place :: within) :=
        patch_extend key place
      rw [internEntries, taken]
      simp only [patched, others]
      rfl

end

theorem intern_empty (tree : Node) :
    Arena.empty.intern none tree =
      ((Document.ofNode tree).root.id, (Document.ofNode tree).arena) := by
  have built := intern_eq [] tree .empty
  rw [List.head?_nil] at built
  rw [built]
  simp [Document.ofNode, Document.arena, extend, append, empty, nextNode]

end Arena

end ThreatModel
