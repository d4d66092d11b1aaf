import Mathlib.Data.List.Basic
import ThreatModel.Document.Content

/-!
Trees of content part by part. A change of the texts and the keys of a tree, each by itself, leaves its
shape; what a tree shows to everyone (`bare`) is what such a change leaves of it when provenance and the
properties of keys are dropped.
-/

namespace ThreatModel

namespace Node

/-- Induction over a tree, where a list has the hypothesis of its elements and a mapping the one of its
values. -/
@[elab_as_elim]
theorem induction {motive : Node → Prop} (null : motive .null) (text : ∀ leaf, motive (.text leaf))
    (list : ∀ items, (∀ item ∈ items, motive item) → motive (.list items))
    (map : ∀ entries, (∀ entry ∈ entries, motive entry.2) → motive (.map entries))
    (node : Node) : motive node := by
  apply @Node.rec motive (fun items => ∀ item ∈ items, motive item)
    (fun entries => ∀ entry ∈ entries, motive entry.2) (fun entry => motive entry.2)
  · exact null
  · exact text
  · exact list
  · exact map
  · exact List.forall_mem_nil _
  · intro head rest headHolds restHolds
    exact List.forall_mem_cons.mpr ⟨headHolds, restHolds⟩
  · exact List.forall_mem_nil _
  · intro head rest headHolds restHolds
    exact List.forall_mem_cons.mpr ⟨headHolds, restHolds⟩
  · intro key value holds
    exact holds

theorem leavesOfItems_eq_flatMap (items : List Node) :
    leavesOfItems items = items.flatMap leaves := by
  induction items with
  | nil => rfl
  | cons item rest ih => simp [leavesOfItems, ih]

theorem leavesOfEntries_eq_flatMap (entries : List (Key × Node)) :
    leavesOfEntries entries = entries.flatMap fun entry => entry.2.leaves := by
  induction entries with
  | nil => rfl
  | cons entry rest ih => simp [leavesOfEntries, ih]

@[simp] theorem leaves_list (items : List Node) : (Node.list items).leaves = items.flatMap leaves := by
  rw [leaves, leavesOfItems_eq_flatMap]

@[simp] theorem leaves_map (entries : List (Key × Node)) :
    (Node.map entries).leaves = entries.flatMap fun entry => entry.2.leaves := by
  rw [leaves, leavesOfEntries_eq_flatMap]

theorem leaves_list_map_text (leaves : List Text) : (Node.list (leaves.map .text)).leaves = leaves := by
  rw [leaves_list, List.flatMap_map]
  exact List.flatMap_singleton' leaves

theorem itemsToJson_eq_map (items : List Node) : itemsToJson items = items.map toJson := by
  induction items with
  | nil => rfl
  | cons item rest ih => rw [itemsToJson, ih, List.map_cons]

theorem entriesToJson_eq_map (entries : List (Key × Node)) :
    entriesToJson entries = entries.map fun entry => (entry.1.name, entry.2.toJson) := by
  induction entries with
  | nil => rfl
  | cons entry rest ih => rw [entriesToJson, ih, List.map_cons]

@[simp] theorem toJson_list (items : List Node) :
    (Node.list items).toJson = .array (items.map toJson) := by
  rw [toJson, itemsToJson_eq_map]

@[simp] theorem toJson_map (entries : List (Key × Node)) :
    (Node.map entries).toJson =
      .object (entries.map fun entry => (entry.1.name, entry.2.toJson)) := by
  rw [toJson, entriesToJson_eq_map]

mutual

/-- The tree with every text and every key changed where it stands. -/
def mapParts (onText : Text → Text) (onKey : Key → Key) : Node → Node
  | .null => .null
  | .text leaf => .text (onText leaf)
  | .list items => .list (mapPartsOfItems onText onKey items)
  | .map entries => .map (mapPartsOfEntries onText onKey entries)

def mapPartsOfItems (onText : Text → Text) (onKey : Key → Key) : List Node → List Node
  | [] => []
  | item :: rest => mapParts onText onKey item :: mapPartsOfItems onText onKey rest

def mapPartsOfEntries (onText : Text → Text) (onKey : Key → Key) :
    List (Key × Node) → List (Key × Node)
  | [] => []
  | (key, value) :: rest =>
      (onKey key, mapParts onText onKey value) :: mapPartsOfEntries onText onKey rest

end

section Changes

variable {onText : Text → Text} {onKey : Key → Key}

@[simp] theorem mapParts_null : Node.null.mapParts onText onKey = .null := rfl

@[simp] theorem mapParts_text (leaf : Text) :
    (Node.text leaf).mapParts onText onKey = .text (onText leaf) := rfl

@[simp] theorem mapParts_list (items : List Node) :
    (Node.list items).mapParts onText onKey = .list (items.map (mapParts onText onKey)) := by
  rw [mapParts]
  congr 1
  induction items with
  | nil => rfl
  | cons item rest ih => rw [mapPartsOfItems, ih, List.map_cons]

@[simp] theorem mapParts_map (entries : List (Key × Node)) :
    (Node.map entries).mapParts onText onKey =
      .map (entries.map (Prod.map onKey (mapParts onText onKey))) := by
  rw [mapParts]
  congr 1
  induction entries with
  | nil => rfl
  | cons entry rest ih => rw [mapPartsOfEntries, ih, List.map_cons, Prod.map]

/-- A function that goes through a tree part by part changes its texts and keys and no more. -/
theorem eq_mapParts {change : Node → Node} (null : change .null = .null)
    (text : ∀ leaf, change (.text leaf) = .text (onText leaf))
    (list : ∀ items, change (.list items) = .list (items.map change))
    (map : ∀ entries, change (.map entries) = .map (entries.map (Prod.map onKey change)))
    (node : Node) : change node = node.mapParts onText onKey := by
  induction node using Node.induction with
  | null => exact null
  | text leaf => exact text leaf
  | list items ih =>
      rw [list, mapParts_list]
      exact congrArg Node.list (List.map_congr_left ih)
  | map entries ih =>
      rw [map, mapParts_map]
      refine congrArg Node.map (List.map_congr_left fun entry member => ?_)
      exact Prod.ext rfl (ih entry member)

theorem mapParts_mapParts (thenText : Text → Text) (thenKey : Key → Key) (node : Node) :
    (node.mapParts onText onKey).mapParts thenText thenKey =
      node.mapParts (thenText ∘ onText) (thenKey ∘ onKey) := by
  induction node using Node.induction with
  | null => rfl
  | text leaf => rfl
  | list items ih =>
      simp only [mapParts_list, List.map_map]
      exact congrArg Node.list (List.map_congr_left ih)
  | map entries ih =>
      simp only [mapParts_map, List.map_map]
      refine congrArg Node.map (List.map_congr_left fun entry member => ?_)
      exact Prod.ext rfl (ih entry member)

theorem leaves_mapParts (node : Node) :
    (node.mapParts onText onKey).leaves = node.leaves.map onText := by
  induction node using Node.induction with
  | null => rfl
  | text leaf => rfl
  | list items ih =>
      rw [mapParts_list, leaves_list, leaves_list, List.flatMap_map, List.map_flatMap]
      exact List.flatMap_congr ih
  | map entries ih =>
      rw [mapParts_map, leaves_map, leaves_map, List.flatMap_map, List.map_flatMap]
      exact List.flatMap_congr ih

/-- Changes that keep the values of texts and the names of keys are not seen in JSON. -/
theorem toJson_mapParts (values : ∀ leaf, (onText leaf).value = leaf.value)
    (names : ∀ key, (onKey key).name = key.name) (node : Node) :
    (node.mapParts onText onKey).toJson = node.toJson := by
  induction node using Node.induction with
  | null => rfl
  | text leaf => rw [mapParts_text, toJson, toJson, values]
  | list items ih =>
      rw [mapParts_list, toJson_list, toJson_list, List.map_map]
      exact congrArg Json.array (List.map_congr_left ih)
  | map entries ih =>
      rw [mapParts_map, toJson_map, toJson_map, List.map_map]
      refine congrArg Json.object (List.map_congr_left fun entry member => ?_)
      exact Prod.ext (names entry.1) (ih entry member)

end Changes

end Node

/-- A key's name and tags alone. -/
def Key.bare (key : Key) : Key := { key with properties := .empty }

namespace Node

/-- The tree with its texts' values alone. -/
def plain (node : Node) : Node := node.mapParts Text.plain id

/-- Shape, names, tags and the values of texts: the tree without provenance and properties. -/
def bare (node : Node) : Node := node.mapParts Text.plain Key.bare

def bareEntry (entry : Key × Node) : Key × Node := (entry.1.bare, entry.2.bare)

@[simp] theorem bareEntry_name (entry : Key × Node) : (bareEntry entry).1.name = entry.1.name := rfl

@[simp] theorem bareEntry_snd (entry : Key × Node) : (bareEntry entry).2 = entry.2.bare := rfl

@[simp] theorem bare_null : Node.null.bare = .null := rfl

@[simp] theorem bare_text (leaf : Text) : (Node.text leaf).bare = .text leaf.plain := rfl

@[simp] theorem bare_list (items : List Node) :
    (Node.list items).bare = .list (items.map bare) := mapParts_list items

@[simp] theorem bare_map (entries : List (Key × Node)) :
    (Node.map entries).bare = .map (entries.map bareEntry) := mapParts_map entries

theorem bare_mapParts {onText : Text → Text} {onKey : Key → Key} (node : Node)
    (texts : ∀ leaf, (onText leaf).plain = leaf.plain) (keys : ∀ key, (onKey key).bare = key.bare) :
    (node.mapParts onText onKey).bare = node.bare := by
  have sameTexts : Text.plain ∘ onText = Text.plain := funext texts
  have sameKeys : Key.bare ∘ onKey = Key.bare := funext keys
  rw [bare, bare, mapParts_mapParts, sameTexts, sameKeys]

@[simp] theorem bare_plain (node : Node) : node.plain.bare = node.bare :=
  node.bare_mapParts (fun _ => rfl) fun _ => rfl

@[simp] theorem bare_bare (node : Node) : node.bare.bare = node.bare :=
  node.bare_mapParts (fun _ => rfl) fun _ => rfl

theorem map_bare_map_bare (items : List Node) : (items.map bare).map bare = items.map bare := by
  rw [List.map_map]
  exact List.map_congr_left fun item _ => item.bare_bare

@[simp] theorem toJson_bare (node : Node) : node.bare.toJson = node.toJson := by
  have values : ∀ leaf : Text, leaf.plain.value = leaf.value := fun _ => rfl
  have names : ∀ key : Key, key.bare.name = key.name := fun _ => rfl
  exact toJson_mapParts values names node

@[simp] theorem leaves_bare (node : Node) : node.bare.leaves = node.leaves.map Text.plain :=
  leaves_mapParts node

/-- Texts as one, line by line; a single one stays as it is. -/
def joined : List Text → Text
  | [] => .ofString ""
  | [leaf] => leaf
  | leaves => .ofString ("\n".intercalate (leaves.map Text.value))

theorem joined_map_plain (leaves : List Text) :
    joined (leaves.map Text.plain) = (joined leaves).plain := by
  match leaves with
  | [] => rfl
  | [leaf] => rfl
  | first :: second :: rest => simp [joined, Text.plain, Text.ofString, Function.comp_def]

@[simp] theorem rendered?_list (items : List Node) :
    (Node.list items).rendered? = some (joined (items.flatMap leaves)) := by
  rw [← leaves_list, rendered?]
  · rcases (Node.list items).leaves with _ | ⟨_, _ | _⟩ <;> rfl
  all_goals nofun

@[simp] theorem rendered?_map (entries : List (Key × Node)) :
    (Node.map entries).rendered? = some (joined (entries.flatMap fun entry => entry.2.leaves)) := by
  rw [← leaves_map, rendered?]
  · rcases (Node.map entries).leaves with _ | ⟨_, _ | _⟩ <;> rfl
  all_goals nofun

theorem rendered?_of_ne_null {node : Node} (present : node ≠ .null) :
    node.rendered? = some (joined node.leaves) := by
  cases node with
  | null => exact absurd rfl present
  | text leaf => rfl
  | list items => rw [rendered?_list, leaves_list]
  | map entries => rw [rendered?_map, leaves_map]

theorem value_joined (leaves : List Text) :
    (joined leaves).value = "\n".intercalate (leaves.map Text.value) := by
  match leaves with
  | [] => exact String.intercalate_nil.symm
  | [leaf] => exact String.intercalate_singleton.symm
  | first :: second :: rest => rfl

theorem provenance_joined_of_length_ne {leaves : List Text} (several : leaves.length ≠ 1) :
    (joined leaves).provenance = .empty := by
  match leaves with
  | [] => rfl
  | [leaf] => exact absurd rfl several
  | first :: second :: rest => rfl

@[simp] theorem rendered?_bare (node : Node) :
    node.bare.rendered? = node.rendered?.map Text.plain := by
  cases node with
  | null | text => rfl
  | list items =>
      rw [rendered?_list, Option.map_some, ← joined_map_plain, ← leaves_list, ← leaves_bare, bare_list,
        rendered?_list, leaves_list]
  | map entries =>
      rw [rendered?_map, Option.map_some, ← joined_map_plain, ← leaves_map, ← leaves_bare, bare_map,
        rendered?_map, leaves_map]

end Node

end ThreatModel
