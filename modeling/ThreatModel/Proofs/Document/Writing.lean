import ThreatModel.Document.TagTable
import ThreatModel.Proofs.Document.Outline
import ThreatModel.Rule.Basic

/-!
Writing to documents. Annotations change the properties of their keys and nothing else, default tags
change the tags. So the two do not disturb each other, doing either again changes nothing, and the
outline stays as it is where the names written are not heeded.
-/

namespace ThreatModel

namespace Key

variable {key : Key} {tag : String} {tags : List String}

@[simp] theorem name_addTags : (key.addTags tags).name = key.name := by
  induction tags generalizing key with
  | nil => rfl
  | cons tag rest ih =>
      rw [addTags, List.foldl_cons, ← addTags, ih, addTag]
      split <;> rfl

theorem hasTag_addTag : (key.addTag tag).hasTag tag := by
  rw [addTag]
  split
  · next carried => exact carried
  · simp [hasTag]

theorem hasTag_addTags_of_hasTag (carried : key.hasTag tag) : (key.addTags tags).hasTag tag := by
  induction tags generalizing key with
  | nil => exact carried
  | cons other rest ih =>
      apply ih
      rw [addTag]
      split
      · exact carried
      · have listed : tag ∈ key.tags := by simpa [hasTag] using carried
        simp [hasTag, listed]

theorem hasTag_addTags (member : tag ∈ tags) : (key.addTags tags).hasTag tag := by
  induction tags generalizing key with
  | nil => cases member
  | cons other rest ih =>
      rw [addTags, List.foldl_cons]
      rcases List.mem_cons.mp member with rfl | inRest
      · exact hasTag_addTags_of_hasTag hasTag_addTag
      · exact ih inRest

theorem addTags_of_forall_hasTag (carried : ∀ tag ∈ tags, key.hasTag tag) :
    key.addTags tags = key := by
  induction tags with
  | nil => rfl
  | cons tag rest ih =>
      have present : key.addTag tag = key := if_pos (carried tag List.mem_cons_self)
      rw [addTags, List.foldl_cons, present]
      exact ih fun other member => carried other (List.mem_cons_of_mem _ member)

theorem addTags_setProperty (name : String) (value : Json) :
    (key.setProperty name value).addTags tags = (key.addTags tags).setProperty name value := by
  induction tags generalizing key with
  | nil => rfl
  | cons tag rest ih =>
      have step : (key.setProperty name value).addTag tag =
          (key.addTag tag).setProperty name value := by
        by_cases carried : key.hasTag tag
        · rw [addTag, addTag, if_pos carried]
          exact if_pos carried
        · rw [addTag, addTag, if_neg carried]
          exact if_neg carried
      rw [addTags, List.foldl_cons, step]
      exact ih

theorem outline_addTags {kept : List String} :
    (key.addTags tags).outline kept = (key.outline kept).addTags tags := by
  induction tags generalizing key with
  | nil => rfl
  | cons tag rest ih =>
      have step : (key.addTag tag).outline kept = (key.outline kept).addTag tag := by
        rw [addTag, addTag, hasTag_outline]
        split <;> rfl
      rw [addTags, List.foldl_cons, ← addTags, ih, step]
      rfl

theorem outline_setProperty_congr {kept : List String} {left right : Key} (name : String)
    (value : Json) (same : left.outline kept = right.outline kept) :
    (left.setProperty name value).outline kept = (right.setProperty name value).outline kept := by
  obtain ⟨sameName, sameTags, sameProperties⟩ := Key.mk.inj same
  rw [outline, outline, Key.mk.injEq]
  exact ⟨sameName, sameTags, Properties.keep_put_congr name value sameProperties⟩

/-- The key with the properties of annotations written to it, in order. -/
def annotated (key : Key) (annotations : List Annotation) : Key :=
  { key with
    properties := key.properties.putAll (annotations.map fun note =>
      (note.name, note.value)) }

theorem annotated_annotated (annotations : List Annotation) :
    (key.annotated annotations).annotated annotations = key.annotated annotations := by
  rw [annotated, annotated, Properties.putAll_putAll]

end Key

namespace TagTable

variable {table : TagTable} {key : Key}

theorem tagged_setProperty (name : String) (value : Json) :
    table.tagged (key.setProperty name value) = (table.tagged key).setProperty name value := by
  by_cases excluded : key.hasTag Tag.noDefaults
  · rw [tagged, tagged, if_pos excluded]
    exact if_pos excluded
  · rw [tagged, tagged, if_neg excluded, ← Key.addTags_setProperty]
    exact if_neg excluded

theorem outline_tagged {kept : List String} :
    (table.tagged key).outline kept = table.tagged (key.outline kept) := by
  rw [tagged, tagged, Key.hasTag_outline, Key.name_outline]
  split
  · rfl
  · exact Key.outline_addTags

/-- The table may itself list the tag that keeps defaults away. -/
theorem tagged_tagged : table.tagged (table.tagged key) = table.tagged key := by
  by_cases excluded : key.hasTag Tag.noDefaults
  · have same : table.tagged key = key := if_pos excluded
    rw [same, same]
  · have added : table.tagged key = key.addTags (table.tagsFor key.name) := if_neg excluded
    rw [added, tagged, Key.name_addTags]
    split
    · rfl
    · exact Key.addTags_of_forall_hasTag fun tag member => Key.hasTag_addTags member

end TagTable

namespace Document

variable {doc : Document}

/-- A document is known by its source and its keys. -/
theorem ext_keys {left right : Document} (source : left.source = right.source)
    (keys : left.keys = right.keys) : left = right := by
  obtain ⟨_, _, _, _, _, rfl, rfl, rfl, _⟩ := left
  obtain ⟨_, _, _, _, _, rfl, rfl, rfl, _⟩ := right
  cases source
  cases keys
  rfl

@[simp] theorem keys_assignTags (table : TagTable) :
    (doc.assignTags table).keys = doc.keys.map table.tagged := rfl

theorem getElem?_keys_setProperty (key : KeyId) (name : String) (value : Json) (index : Nat) :
    (doc.setProperty key name value).keys[index]? =
      if key.index = index then doc.keys[index]?.map (·.setProperty name value)
      else doc.keys[index]? :=
  Array.getElem?_modify

/-- Write annotations one after the other. -/
def written (doc : Document) (annotations : List Annotation) : Document :=
  annotations.foldl
    (fun doc note => doc.setProperty note.key note.name note.value) doc

theorem written_cons (note : Annotation) (rest : List Annotation) :
    doc.written (note :: rest) =
      (doc.setProperty note.key note.name note.value).written rest := rfl

theorem written_append (first second : List Annotation) :
    doc.written (first ++ second) = (doc.written first).written second :=
  List.foldl_append

theorem source_written (annotations : List Annotation) :
    (doc.written annotations).source = doc.source := by
  induction annotations generalizing doc with
  | nil => rfl
  | cons note rest ih => exact ih

/-- Every key has the properties of its own annotations. -/
theorem getElem?_keys_written (annotations : List Annotation) (index : Nat) :
    (doc.written annotations).keys[index]? = doc.keys[index]?.map fun key =>
      key.annotated (annotations.filter fun note => note.key.index == index) := by
  induction annotations generalizing doc with
  | nil => exact (Option.map_id' ..).symm
  | cons note rest ih =>
      rw [written_cons, ih, getElem?_keys_setProperty]
      by_cases here : note.key.index = index
      · rw [if_pos here, Option.map_map, List.filter_cons_of_pos (by simp [here])]
        rfl
      · rw [if_neg here, List.filter_cons_of_neg (by simp [here])]

theorem key_written_of_unmarked {annotations : List Annotation} {id : KeyId}
    (unmarked : ∀ note ∈ annotations, note.key ≠ id) :
    (doc.written annotations).key id = doc.key id := by
  have own : (annotations.filter fun note => note.key.index == id.index) = [] := by
    rw [List.filter_eq_nil_iff]
    intro note member sameIndex
    exact unmarked note member (congrArg KeyId.mk (eq_of_beq sameIndex))
  rw [key, key, getElem?_keys_written, own]
  cases doc.keys[id.index]? <;> rfl

theorem tags_key_written (annotations : List Annotation) (id : KeyId) :
    ((doc.written annotations).key id).tags = (doc.key id).tags := by
  rw [key, key, getElem?_keys_written]
  cases doc.keys[id.index]? <;> rfl

/-- A key has the property that its notes agree on. -/
theorem property?_written {annotations : List Annotation} {note : Annotation}
    (isKey : note.key ∈ doc.keyIds) (listed : note ∈ annotations)
    (agree : ∀ other ∈ annotations, other.key = note.key → other.name = note.name →
      other.value = note.value) :
    ((doc.written annotations).key note.key).property? note.name = some note.value := by
  obtain ⟨index, inRange, same⟩ := List.mem_map.mp isKey
  rw [List.mem_range] at inRange
  have present : doc.keys[note.key.index]? = some doc.keys[index] := by
    rw [← same]
    exact Array.getElem?_eq_getElem inRange
  let own := annotations.filter fun other => other.key.index == note.key.index
  have last : Properties.lastPut? note.name (own.map fun other => (other.name, other.value)) =
      some note.value := by
    apply Properties.lastPut?_eq_some
    · exact List.mem_map.mpr ⟨note, List.mem_filter.mpr ⟨listed, beq_self_eq_true _⟩, rfl⟩
    · intro value member
      obtain ⟨other, inOwn, pair⟩ := List.mem_map.mp member
      obtain ⟨inAll, sameIndex⟩ := List.mem_filter.mp inOwn
      obtain ⟨sameName, rfl⟩ := Prod.mk.inj pair
      exact agree other inAll (congrArg KeyId.mk (eq_of_beq sameIndex)) sameName
  rw [key, getElem?_keys_written, present]
  change (doc.keys[index].properties.putAll _).get? note.name = some note.value
  rw [Properties.get?_putAll, last]
  rfl

theorem written_written (annotations : List Annotation) :
    (doc.written annotations).written annotations = doc.written annotations := by
  apply ext_keys
  · rw [source_written]
  · apply Array.ext_getElem?
    intro index
    rw [getElem?_keys_written, getElem?_keys_written, Option.map_map]
    exact congrArg (Option.map · _) (funext fun key => key.annotated_annotated _)

theorem outline_setProperty {kept : List String} {name : String} (key : KeyId) (value : Json)
    (unheeded : ∀ value, Key.heeds kept name value = false) :
    (doc.setProperty key name value).outline kept = doc.outline kept := by
  apply ext_keys
  · rfl
  · apply Array.ext_getElem?
    intro index
    rw [keys_outline, keys_outline, Array.getElem?_map, Array.getElem?_map,
      getElem?_keys_setProperty]
    split
    · rw [Option.map_map]
      exact congrArg (Option.map · _) (funext fun key => key.outline_setProperty value unheeded)
    · rfl

theorem outline_written {kept : List String} {annotations : List Annotation}
    (unheeded : ∀ note ∈ annotations, ∀ value,
      Key.heeds kept note.name value = false) :
    (doc.written annotations).outline kept = doc.outline kept := by
  induction annotations generalizing doc with
  | nil => rfl
  | cons note rest ih =>
      rw [written_cons, ih fun other member => unheeded other (List.mem_cons_of_mem _ member)]
      exact outline_setProperty _ _ (unheeded note List.mem_cons_self)

theorem outline_assignTags {kept : List String} (table : TagTable) :
    (doc.assignTags table).outline kept = (doc.outline kept).assignTags table := by
  apply ext_keys
  · rfl
  · rw [keys_outline, keys_assignTags, keys_assignTags, keys_outline, Array.map_map, Array.map_map]
    exact congrArg (Array.map · _) (funext fun key => TagTable.outline_tagged)

theorem outline_setProperty_congr {kept : List String} {left right : Document} (note : Annotation)
    (same : left.outline kept = right.outline kept) :
    (left.setProperty note.key note.name note.value).outline kept =
      (right.setProperty note.key note.name note.value).outline kept := by
  apply ext_keys
  · exact congrArg (·.source) same
  · apply Array.ext_getElem?
    intro index
    have sameKey := congrArg (·.keys[index]?) same
    simp only [keys_outline, Array.getElem?_map] at sameKey
    rw [keys_outline, keys_outline, Array.getElem?_map, Array.getElem?_map,
      getElem?_keys_setProperty, getElem?_keys_setProperty]
    split
    · generalize left.keys[index]? = leftKey, right.keys[index]? = rightKey at sameKey ⊢
      cases leftKey <;> cases rightKey
      · rfl
      · contradiction
      · contradiction
      · have outlines := Option.some.inj sameKey
        exact congrArg some (Key.outline_setProperty_congr note.name note.value outlines)
    · exact sameKey

/-- Writing the same to documents of one outline leaves documents of one outline. -/
theorem outline_written_congr {kept : List String} {left right : Document}
    (annotations : List Annotation) (same : left.outline kept = right.outline kept) :
    (left.written annotations).outline kept = (right.written annotations).outline kept := by
  induction annotations generalizing left right with
  | nil => exact same
  | cons note rest ih => exact ih (outline_setProperty_congr note same)

theorem assignTags_setProperty (table : TagTable) (key : KeyId) (name : String) (value : Json) :
    (doc.setProperty key name value).assignTags table =
      (doc.assignTags table).setProperty key name value := by
  apply ext_keys
  · rfl
  · apply Array.ext_getElem?
    intro index
    rw [keys_assignTags, Array.getElem?_map, getElem?_keys_setProperty,
      getElem?_keys_setProperty, keys_assignTags, Array.getElem?_map]
    split
    · rw [Option.map_map, Option.map_map]
      exact congrArg (Option.map · _) (funext fun key => TagTable.tagged_setProperty name value)
    · rfl

theorem assignTags_written (table : TagTable) (annotations : List Annotation) :
    (doc.written annotations).assignTags table = (doc.assignTags table).written annotations := by
  induction annotations generalizing doc with
  | nil => rfl
  | cons note rest ih => rw [written_cons, written_cons, ih, assignTags_setProperty]

theorem assignTags_assignTags (table : TagTable) :
    (doc.assignTags table).assignTags table = doc.assignTags table := by
  apply ext_keys
  · rfl
  · rw [keys_assignTags, keys_assignTags, Array.map_map]
    exact congrArg (Array.map · _) (funext fun key => TagTable.tagged_tagged)

end Document

end ThreatModel
