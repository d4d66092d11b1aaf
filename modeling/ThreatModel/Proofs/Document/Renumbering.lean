import Mathlib.Data.List.Perm.Basic
import Mathlib.Logic.Equiv.Basic
import ThreatModel.Proofs.Document.Plain
import ThreatModel.Proofs.Document.SearchOrder

/-!
Numbered trees in other numbers. When the entries of a mapping stand in another order, they and what lies
below them are numbered anew; the numbers change as two adjacent blocks do that change places, over and
over (`exists_renumbers`).
-/

namespace ThreatModel

/-- The number that a number becomes when two adjacent blocks change places, the first of which begins at
`start`. -/
def exchangedNumber (start first second number : Nat) : Nat :=
  if number < start then number
  else if number < start + first then number + second
  else if number < start + first + second then number - first
  else number

theorem exchangedNumber_exchangedNumber (start first second number : Nat) :
    exchangedNumber start second first (exchangedNumber start first second number) = number := by
  unfold exchangedNumber
  grind

/-- Two adjacent blocks of numbers change places. -/
def exchangeBlocks (start first second : Nat) : Equiv.Perm Nat where
  toFun := exchangedNumber start first second
  invFun := exchangedNumber start second first
  left_inv := exchangedNumber_exchangedNumber start first second
  right_inv := exchangedNumber_exchangedNumber start second first

section Blocks

variable {start first second offset : Nat}

theorem exchangeBlocks_below (below : offset < start) :
    exchangeBlocks start first second offset = offset := if_pos below

theorem exchangeBlocks_above (above : start + first + second ≤ offset) :
    exchangeBlocks start first second offset = offset := by
  show exchangedNumber _ _ _ _ = _
  unfold exchangedNumber
  grind

theorem exchangeBlocks_first (inFirst : offset < first) :
    exchangeBlocks start first second (start + offset) = start + second + offset := by
  show exchangedNumber _ _ _ _ = _
  unfold exchangedNumber
  grind

theorem exchangeBlocks_second (inSecond : offset < second) :
    exchangeBlocks start first second (start + first + offset) = start + offset := by
  show exchangedNumber _ _ _ _ = _
  unfold exchangedNumber
  grind

/-- When two blocks of a list change places, their elements take the exchanged numbers. -/
theorem getElem?_exchangeBlocks (before left right rest : List α) (number : Nat) :
    (before ++ (right ++ (left ++ rest)))[
        exchangeBlocks before.length left.length right.length number]? =
      (before ++ (left ++ (right ++ rest)))[number]? := by
  -- The number is below the blocks, in the first, in the second or above them.
  rcases Nat.lt_or_ge number before.length with inBefore | afterBefore
  · rw [exchangeBlocks_below inBefore, List.getElem?_append_left inBefore,
      List.getElem?_append_left inBefore]
  · obtain ⟨offset, rfl⟩ := Nat.exists_eq_add_of_le afterBefore
    rw [List.getElem?_append_right afterBefore, Nat.add_sub_cancel_left]
    rcases Nat.lt_or_ge offset left.length with inLeft | afterLeft
    · rw [exchangeBlocks_first inLeft, List.getElem?_append_left inLeft, Nat.add_assoc,
        List.getElem?_append_right (Nat.le_add_right _ _), Nat.add_sub_cancel_left,
        List.getElem?_append_right (Nat.le_add_right _ _), Nat.add_sub_cancel_left,
        List.getElem?_append_left inLeft]
    · obtain ⟨offset, rfl⟩ := Nat.exists_eq_add_of_le afterLeft
      rw [List.getElem?_append_right afterLeft, Nat.add_sub_cancel_left, ← Nat.add_assoc]
      rcases Nat.lt_or_ge offset right.length with inRight | afterRight
      · rw [exchangeBlocks_second inRight, List.getElem?_append_right (Nat.le_add_right _ _),
          Nat.add_sub_cancel_left, List.getElem?_append_left inRight,
          List.getElem?_append_left inRight]
      · obtain ⟨offset, rfl⟩ := Nat.exists_eq_add_of_le afterRight
        have swapped : before.length + left.length + (right.length + offset) =
            before.length + (right.length + (left.length + offset)) := by omega
        rw [exchangeBlocks_above (by omega), swapped, List.getElem?_append_right afterRight,
          Nat.add_sub_cancel_left, List.getElem?_append_right (Nat.le_add_right _ _),
          Nat.add_sub_cancel_left, List.getElem?_append_right (Nat.le_add_right _ _),
          Nat.add_sub_cancel_left, List.getElem?_append_right (Nat.le_add_right _ _),
          Nat.add_sub_cancel_left]

end Blocks

/-- A key under its new number. -/
def KeyId.renumber (keys : Nat → Nat) (id : KeyId) : KeyId := ⟨keys id.index⟩

/-- A node under its new number. -/
def NodeId.renumber (nodes : Nat → Nat) (id : NodeId) : NodeId := ⟨nodes id.index⟩

namespace Item

mutual

/-- The tree with every node and every key under its new number. -/
def renumber (nodes keys : Nat → Nat) : Item → Item
  | .null id => .null (id.renumber nodes)
  | .text id leaf => .text (id.renumber nodes) leaf
  | .list id items => .list (id.renumber nodes) (renumberItems nodes keys items)
  | .map id entries => .map (id.renumber nodes) (renumberEntries nodes keys entries)

def renumberItems (nodes keys : Nat → Nat) : List Item → List Item
  | [] => []
  | item :: rest => renumber nodes keys item :: renumberItems nodes keys rest

def renumberEntries (nodes keys : Nat → Nat) : List (KeyId × Item) → List (KeyId × Item)
  | [] => []
  | (key, value) :: rest =>
      (key.renumber keys, renumber nodes keys value) :: renumberEntries nodes keys rest

end

section Renumber

variable {nodes keys : Nat → Nat}

theorem renumberItems_eq_map (items : List Item) :
    renumberItems nodes keys items = items.map (renumber nodes keys) := by
  induction items with
  | nil => rfl
  | cons item rest ih => rw [renumberItems, ih, List.map_cons]

theorem renumberEntries_eq_map (entries : List (KeyId × Item)) :
    renumberEntries nodes keys entries =
      entries.map (Prod.map (KeyId.renumber keys) (renumber nodes keys)) := by
  induction entries with
  | nil => rfl
  | cons entry rest ih => rw [renumberEntries, ih, List.map_cons, Prod.map]

theorem renumberEntries_append (entries further : List (KeyId × Item)) :
    renumberEntries nodes keys (entries ++ further) =
      renumberEntries nodes keys entries ++ renumberEntries nodes keys further := by
  simp only [renumberEntries_eq_map, List.map_append]

theorem renumber_renumber (thenNodes thenKeys : Nat → Nat) (item : Item) :
    (item.renumber nodes keys).renumber thenNodes thenKeys =
      item.renumber (thenNodes ∘ nodes) (thenKeys ∘ keys) := by
  induction item using Item.induction with
  | null | text => rfl
  | list id items ih =>
      simp only [renumber, renumberItems_eq_map, List.map_map]
      exact congrArg _ (List.map_congr_left ih)
  | map id entries ih =>
      simp only [renumber, renumberEntries_eq_map, List.map_map]
      refine congrArg _ (List.map_congr_left fun entry member => ?_)
      exact Prod.ext rfl (ih entry member)

theorem renumberEntries_renumberEntries (thenNodes thenKeys : Nat → Nat)
    (entries : List (KeyId × Item)) :
    renumberEntries thenNodes thenKeys (renumberEntries nodes keys entries) =
      renumberEntries (thenNodes ∘ nodes) (thenKeys ∘ keys) entries := by
  simp only [renumberEntries_eq_map, List.map_map]
  exact List.map_congr_left fun entry _ => Prod.ext rfl (renumber_renumber _ _ entry.2)

theorem texts_renumber (item : Item) : (item.renumber nodes keys).texts = item.texts := by
  induction item using Item.induction with
  | null | text | map => rfl
  | list id items ih =>
      rw [renumber, renumberItems_eq_map, texts_list, texts_list, List.flatMap_map]
      exact List.flatMap_congr ih

theorem searchOrder_renumber (item : Item) :
    (item.renumber nodes keys).searchOrder =
      item.searchOrder.map (Prod.map (KeyId.renumber keys) (renumber nodes keys)) := by
  induction item using Item.induction with
  | null | text => rfl
  | list id items ih =>
      rw [renumber, renumberItems_eq_map, searchOrder, searchOrder, searchOrderOfItems_eq_flatMap,
        searchOrderOfItems_eq_flatMap, List.flatMap_map, List.map_flatMap]
      exact List.flatMap_congr ih
  | map id entries ih =>
      rw [renumber, renumberEntries_eq_map, searchOrder, searchOrder, searchOrderOfValues_eq_flatMap,
        searchOrderOfValues_eq_flatMap, List.flatMap_map, List.map_append, List.map_flatMap]
      exact congrArg _ (List.flatMap_congr ih)

end Renumber

end Item

namespace Node

theorem keysOfItems_eq_flatMap (items : List Node) : keysOfItems items = items.flatMap keys := by
  induction items with
  | nil => rfl
  | cons item rest ih => rw [keysOfItems, ih, List.flatMap_cons]

theorem keysOfEntries_eq_flatMap (entries : Mapping) :
    keysOfEntries entries = entries.flatMap fun entry => entry.1 :: entry.2.keys := by
  induction entries with
  | nil => rfl
  | cons entry rest ih => rw [keysOfEntries, ih, List.flatMap_cons, List.cons_append]

theorem keysOfItems_append (items further : List Node) :
    keysOfItems (items ++ further) = keysOfItems items ++ keysOfItems further := by
  simp only [keysOfItems_eq_flatMap, List.flatMap_append]

theorem keysOfEntries_append (entries further : Mapping) :
    keysOfEntries (entries ++ further) = keysOfEntries entries ++ keysOfEntries further := by
  simp only [keysOfEntries_eq_flatMap, List.flatMap_append]

theorem numberItems_append (items further : List Node) (firstNode firstKey : Nat) :
    numberItems firstNode firstKey (items ++ further) =
      numberItems firstNode firstKey items ++
        numberItems (firstNode + nodeCountOfItems items) (firstKey + (keysOfItems items).length)
          further := by
  induction items generalizing firstNode firstKey with
  | nil => rfl
  | cons item rest ih =>
      rw [List.cons_append, numberItems, numberItems, ih, List.cons_append, nodeCountOfItems,
        keysOfItems, List.length_append, Nat.add_assoc, Nat.add_assoc]

theorem numberEntries_append (entries further : Mapping) (firstNode firstKey : Nat) :
    numberEntries firstNode firstKey (entries ++ further) =
      numberEntries firstNode firstKey entries ++
        numberEntries (firstNode + nodeCountOfEntries entries)
          (firstKey + (keysOfEntries entries).length) further := by
  induction entries generalizing firstNode firstKey with
  | nil => rfl
  | cons entry rest ih =>
      have keysBefore : firstKey + 1 + entry.2.keys.length + (keysOfEntries rest).length =
          firstKey + (entry.1 :: (entry.2.keys ++ keysOfEntries rest)).length := by
        rw [List.length_cons, List.length_append]
        omega
      rw [List.cons_append, numberEntries, numberEntries, ih, List.cons_append, nodeCountOfEntries,
        keysOfEntries, Nat.add_assoc firstNode, keysBefore]

end Node

/-- A block of `count` numbers from `first` on moves evenly to the numbers from `new` on. -/
def MovesBlock (move : Nat → Nat) (count first new : Nat) : Prop :=
  ∀ offset < count, move (first + offset) = new + offset

namespace MovesBlock

variable {move : Nat → Nat} {count further first new : Nat}

theorem left (moves : MovesBlock move (count + further) first new) :
    MovesBlock move count first new :=
  fun offset inside => moves offset (Nat.lt_add_right further inside)

theorem right (moves : MovesBlock move (count + further) first new) :
    MovesBlock move further (first + count) (new + count) := by
  intro offset inside
  rw [Nat.add_assoc, Nat.add_assoc]
  exact moves (count + offset) (Nat.add_lt_add_left inside count)

theorem exchangeBlocks_first {start second : Nat} :
    MovesBlock (exchangeBlocks start count second) count start (start + second) :=
  fun _ inside => ThreatModel.exchangeBlocks_first inside

theorem exchangeBlocks_second {start first : Nat} :
    MovesBlock (exchangeBlocks start first count) count (start + first) start :=
  fun _ inside => ThreatModel.exchangeBlocks_second inside

theorem exchangeBlocks_above {start first second : Nat} :
    MovesBlock (exchangeBlocks start first second) count (start + first + second)
      (start + second + first) := by
  intro offset _
  rw [ThreatModel.exchangeBlocks_above (Nat.le_add_right _ _), Nat.add_right_comm start]

theorem single (moves : MovesBlock move 1 first new) : move first = new := moves 0 Nat.one_pos

end MovesBlock

namespace Node

variable {nodes keys : Nat → Nat}

mutual

/-- Where its numbers move evenly, a tree is the one numbered from elsewhere. -/
theorem renumber_number : ∀ (node : Node) {firstNode firstKey newNode newKey : Nat},
    MovesBlock nodes node.nodeCount firstNode newNode →
    MovesBlock keys node.keys.length firstKey newKey →
      (node.number firstNode firstKey).renumber nodes keys = node.number newNode newKey
  | .null, _, _, _, _, nodesMove, _ => by
      rw [number, number, Item.renumber, NodeId.renumber, nodesMove.single]
  | .text leaf, _, _, _, _, nodesMove, _ => by
      rw [number, number, Item.renumber, NodeId.renumber, nodesMove.single]
  | .list items, _, _, _, _, nodesMove, keysMove => by
      rw [nodeCount] at nodesMove
      rw [number, number, Item.renumber, NodeId.renumber, nodesMove.left.single,
        renumber_numberItems items nodesMove.right keysMove]
  | .map entries, _, _, _, _, nodesMove, keysMove => by
      rw [nodeCount] at nodesMove
      rw [number, number, Item.renumber, NodeId.renumber, nodesMove.left.single,
        renumber_numberEntries entries nodesMove.right keysMove]

theorem renumber_numberItems : ∀ (items : List Node) {firstNode firstKey newNode newKey : Nat},
    MovesBlock nodes (nodeCountOfItems items) firstNode newNode →
    MovesBlock keys (keysOfItems items).length firstKey newKey →
      Item.renumberItems nodes keys (numberItems firstNode firstKey items) =
        numberItems newNode newKey items
  | [], _, _, _, _, _, _ => rfl
  | item :: rest, _, _, _, _, nodesMove, keysMove => by
      rw [nodeCountOfItems] at nodesMove
      rw [keysOfItems, List.length_append] at keysMove
      rw [numberItems, numberItems, Item.renumberItems,
        renumber_number item nodesMove.left keysMove.left,
        renumber_numberItems rest nodesMove.right keysMove.right]

theorem renumber_numberEntries :
    ∀ (entries : List (Key × Node)) {firstNode firstKey newNode newKey : Nat},
    MovesBlock nodes (nodeCountOfEntries entries) firstNode newNode →
    MovesBlock keys (keysOfEntries entries).length firstKey newKey →
      Item.renumberEntries nodes keys (numberEntries firstNode firstKey entries) =
        numberEntries newNode newKey entries
  | [], _, _, _, _, _, _ => rfl
  | (key, value) :: rest, _, _, _, _, nodesMove, keysMove => by
      rw [nodeCountOfEntries] at nodesMove
      rw [keysOfEntries, List.length_cons, List.length_append, Nat.add_right_comm,
        Nat.add_comm value.keys.length] at keysMove
      rw [numberEntries, numberEntries, Item.renumberEntries, KeyId.renumber,
        keysMove.left.left.single, renumber_number value nodesMove.left keysMove.left.right,
        renumber_numberEntries rest nodesMove.right]
      simpa only [Nat.add_assoc] using keysMove.right

end

/-- The entries `after` are the entries `before` in another order, and `nodes` and `keys` say which
numbers become of their numbers when they are counted from `firstNode` and `firstKey` on. -/
structure Renumbers (firstNode firstKey : Nat) (before after : Mapping) (nodes keys : Nat → Nat) :
    Prop where
  entries : (Item.renumberEntries nodes keys (numberEntries firstNode firstKey before)).Perm
    (numberEntries firstNode firstKey after)
  nodes_below : ∀ number < firstNode, nodes number = number
  keys_below : ∀ number < firstKey, keys number = number
  /-- Wherever the keys of the entries are listed, each is found under its new number. -/
  sameKeys : ∀ first rest : List Key, first.length = firstKey → ∀ number : Nat,
    (first ++ (keysOfEntries after ++ rest))[keys number]? =
      (first ++ (keysOfEntries before ++ rest))[number]?

/-- Two groups of entries change places. -/
theorem renumbers_exchange {firstNode firstKey : Nat} (left right rest : Mapping) :
    Renumbers firstNode firstKey (left ++ (right ++ rest)) (right ++ (left ++ rest))
      (exchangeBlocks firstNode (nodeCountOfEntries left) (nodeCountOfEntries right))
      (exchangeBlocks firstKey (keysOfEntries left).length (keysOfEntries right).length) where
  entries := by
    simp only [numberEntries_append, Item.renumberEntries_append]
    rw [renumber_numberEntries left .exchangeBlocks_first .exchangeBlocks_first,
      renumber_numberEntries right .exchangeBlocks_second .exchangeBlocks_second,
      renumber_numberEntries rest .exchangeBlocks_above .exchangeBlocks_above]
    exact List.perm_append_comm_assoc _ _ _
  nodes_below _ below := exchangeBlocks_below below
  keys_below _ below := exchangeBlocks_below below
  sameKeys first others length number := by
    subst length
    simp only [keysOfEntries_append, List.append_assoc]
    exact getElem?_exchangeBlocks _ _ _ _ number

namespace Renumbers

variable {firstNode firstKey : Nat} {before between after : Mapping}

theorem refl (entries : Mapping) :
    Renumbers firstNode firstKey entries entries (Equiv.refl Nat) (Equiv.refl Nat) where
  entries := .of_eq (renumber_numberEntries entries (fun _ _ => rfl) fun _ _ => rfl)
  nodes_below _ _ := rfl
  keys_below _ _ := rfl
  sameKeys _ _ _ _ := rfl

theorem trans {thenNodes thenKeys : Nat → Nat}
    (first : Renumbers firstNode firstKey before between nodes keys)
    (second : Renumbers firstNode firstKey between after thenNodes thenKeys) :
    Renumbers firstNode firstKey before after (thenNodes ∘ nodes) (thenKeys ∘ keys) where
  entries := by
    have carried := first.entries.map (Prod.map (KeyId.renumber thenKeys)
      (Item.renumber thenNodes thenKeys))
    rw [← Item.renumberEntries_eq_map, ← Item.renumberEntries_eq_map,
      Item.renumberEntries_renumberEntries] at carried
    exact carried.trans second.entries
  nodes_below _ below := by
    rw [Function.comp_apply, first.nodes_below _ below, second.nodes_below _ below]
  keys_below _ below := by
    rw [Function.comp_apply, first.keys_below _ below, second.keys_below _ below]
  sameKeys listed rest length number := by
    rw [Function.comp_apply, second.sameKeys listed rest length,
      first.sameKeys listed rest length]

/-- An entry in front keeps its numbers when the entries after it take others. -/
theorem cons {key : Key} {value : Node}
    (behind : Renumbers (firstNode + value.nodeCount) (firstKey + 1 + value.keys.length) before after
      nodes keys) :
    Renumbers firstNode firstKey ((key, value) :: before) ((key, value) :: after) nodes keys where
  entries := by
    have valueStays : (value.number firstNode (firstKey + 1)).renumber nodes keys =
        value.number firstNode (firstKey + 1) := by
      refine renumber_number value (fun offset inside => ?_) fun offset inside => ?_
      · exact behind.nodes_below _ (Nat.add_lt_add_left inside _)
      · exact behind.keys_below _ (Nat.add_lt_add_left inside _)
    have keyStays : (⟨firstKey⟩ : KeyId).renumber keys = ⟨firstKey⟩ :=
      congrArg KeyId.mk (behind.keys_below firstKey (by omega))
    rw [numberEntries, numberEntries, Item.renumberEntries, valueStays, keyStays]
    exact behind.entries.cons _
  nodes_below _ below := behind.nodes_below _ (Nat.lt_add_right _ below)
  keys_below _ below := behind.keys_below _ (by omega)
  sameKeys first rest length number := by
    have reaches : (first ++ key :: value.keys).length = firstKey + 1 + value.keys.length := by
      rw [List.length_append, List.length_cons, length]
      omega
    have same := behind.sameKeys (first ++ key :: value.keys) rest reaches number
    simpa [keysOfEntries] using same

end Renumbers

theorem exists_renumbers {before after : Mapping} (permuted : before.Perm after) :
    ∀ firstNode firstKey, ∃ nodes keys : Equiv.Perm Nat,
      Renumbers firstNode firstKey before after nodes keys := by
  -- The first number varies in the induction: what is behind an entry is counted from after it.
  induction permuted with
  | nil =>
      intro firstNode firstKey
      exact ⟨_, _, .refl []⟩
  | cons entry _ ih =>
      intro firstNode firstKey
      obtain ⟨nodes, keys, behind⟩ :=
        ih (firstNode + entry.2.nodeCount) (firstKey + 1 + entry.2.keys.length)
      exact ⟨nodes, keys, behind.cons⟩
  | swap right left rest =>
      intro firstNode firstKey
      exact ⟨_, _, renumbers_exchange [left] [right] rest⟩
  | trans _ _ firstIH secondIH =>
      intro firstNode firstKey
      obtain ⟨firstNodes, firstKeys, first⟩ := firstIH firstNode firstKey
      obtain ⟨secondNodes, secondKeys, second⟩ := secondIH firstNode firstKey
      exact ⟨firstNodes.trans secondNodes, firstKeys.trans secondKeys, first.trans second⟩

end Node
end ThreatModel
