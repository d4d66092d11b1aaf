import ThreatModel.Proofs.Verification.Run

/-!
What a verification may change. It adds tags to keys and writes properties to them; the tree, the names
of its keys and its texts stay. Each pass changes no more than that, and so does the whole of them.
-/

namespace ThreatModel

namespace Key

/-- The key gains tags that it lacked, each once, and properties of the names given. -/
structure Annotates (names : List String) (before after : Key) : Prop where
  name : after.name = before.name
  tags : ∃ added, after.tags = before.tags ++ added ∧ added.Nodup ∧
    ∀ tag ∈ added, tag ∉ before.tags
  property? : ∀ name, name ∉ names → after.property? name = before.property? name

variable {names : List String} {key before middle after : Key}

theorem Annotates.refl (names : List String) (key : Key) : key.Annotates names key :=
  ⟨rfl, ⟨[], by simp, List.nodup_nil, by simp⟩, fun _ _ => rfl⟩

theorem Annotates.trans (first : before.Annotates names middle)
    (second : middle.Annotates names after) : before.Annotates names after := by
  obtain ⟨early, earlyTags, earlyOnce, earlyNew⟩ := first.tags
  obtain ⟨late, lateTags, lateOnce, lateNew⟩ := second.tags
  rw [earlyTags] at lateTags lateNew
  refine ⟨second.name.trans first.name, ⟨early ++ late, ?_, ?_, ?_⟩, ?_⟩
  · rw [lateTags, List.append_assoc]
  · refine List.nodup_append.mpr ⟨earlyOnce, lateOnce, ?_⟩
    rintro tag inEarly _ inLate rfl
    exact lateNew tag inLate (List.mem_append_right _ inEarly)
  · intro tag member
    rcases List.mem_append.mp member with inEarly | inLate
    · exact earlyNew tag inEarly
    · exact fun present => lateNew tag inLate (List.mem_append_left _ present)
  · intro name other
    exact (second.property? name other).trans (first.property? name other)

theorem annotates_addTag (names : List String) (key : Key) (tag : String) :
    key.Annotates names (key.addTag tag) := by
  rw [addTag]
  split
  · exact .refl names key
  · next lacking =>
      have absent : tag ∉ key.tags := by simpa [hasTag] using lacking
      refine ⟨rfl, ⟨[tag], rfl, by simp, ?_⟩, fun _ _ => rfl⟩
      intro added member
      rwa [List.mem_singleton.mp member]

theorem annotates_addTags (names : List String) (key : Key) (tags : List String) :
    key.Annotates names (key.addTags tags) := by
  induction tags generalizing key with
  | nil => exact .refl names key
  | cons tag rest ih => exact (annotates_addTag names key tag).trans (ih (key.addTag tag))

theorem annotates_tagged (names : List String) (key : Key) (table : TagTable) :
    key.Annotates names (table.tagged key) := by
  rw [TagTable.tagged]
  split
  · exact .refl names key
  · exact annotates_addTags names key _

theorem annotates_setProperty {name : String} (listed : name ∈ names) (value : Json) :
    key.Annotates names (key.setProperty name value) := by
  refine ⟨rfl, (Annotates.refl names key).tags, fun other unlisted => ?_⟩
  have different : name ≠ other := fun same => unlisted (same ▸ listed)
  rw [property?, setProperty, Properties.get?_put, if_neg different, property?]

end Key

namespace Document

mutual

theorem toJson_congr {left right : Document} (names : ∀ id, (left.key id).name = (right.key id).name) :
    (node : Item) → left.toJson node = right.toJson node
  | .null _ => rfl
  | .text _ _ => rfl
  | .list _ items => by rw [toJson, toJson, itemsToJson_congr names items]
  | .map _ entries => by rw [toJson, toJson, entriesToJson_congr names entries]

theorem itemsToJson_congr {left right : Document}
    (names : ∀ id, (left.key id).name = (right.key id).name) :
    (items : List Item) → left.itemsToJson items = right.itemsToJson items
  | [] => rfl
  | item :: rest => by
      rw [itemsToJson, itemsToJson, toJson_congr names item, itemsToJson_congr names rest]

theorem entriesToJson_congr {left right : Document}
    (names : ∀ id, (left.key id).name = (right.key id).name) :
    (entries : List (KeyId × Item)) → left.entriesToJson entries = right.entriesToJson entries
  | [] => rfl
  | (id, value) :: rest => by
      rw [entriesToJson, entriesToJson, names id, toJson_congr names value,
        entriesToJson_congr names rest]

end

/-- The document keeps its nodes, with their numbers, texts and provenance, and its keys are annotated
where they stand. -/
structure Annotates (names : List String) (before after : Document) : Prop where
  source : after.source = before.source
  root : after.root = before.root
  nodes : after.nodes = before.nodes
  places : after.places = before.places
  keyIds : after.keyIds = before.keyIds
  keys : ∀ id, (before.key id).Annotates names (after.key id)
  json : after.toJson after.root = before.toJson before.root

variable {names : List String} {doc before middle after : Document}

/-- All but the keys is known from the source. -/
theorem annotates_of_keys {f : Nat → Key → Key} (source : after.source = before.source)
    (keys : ∀ index, after.keys[index]? = before.keys[index]?.map (f index))
    (annotated : ∀ index (key : Key), key.Annotates names (f index key)) :
    before.Annotates names after := by
  have root : after.root = before.root := by rw [after.root_eq, before.root_eq, source]
  have size : after.keys.size = before.keys.size := by
    rw [after.keys_size, before.keys_size, source]
  have each : ∀ id, (before.key id).Annotates names (after.key id) := by
    intro id
    rw [key, key, keys id.index]
    cases before.keys[id.index]? with
    | none => exact .refl names default
    | some found => exact annotated id.index found
  refine ⟨source, root, ?_, ?_, ?_, each, ?_⟩
  · rw [after.nodes_eq, before.nodes_eq, root]
  · rw [after.places_eq, before.places_eq, root]
  · rw [keyIds, keyIds, size]
  · rw [root]
    exact toJson_congr (fun id => (each id).name) before.root

theorem Annotates.refl (names : List String) (doc : Document) : doc.Annotates names doc :=
  ⟨rfl, rfl, rfl, rfl, rfl, fun id => .refl names (doc.key id), rfl⟩

theorem Annotates.trans (first : before.Annotates names middle)
    (second : middle.Annotates names after) : before.Annotates names after where
  source := second.source.trans first.source
  root := second.root.trans first.root
  nodes := second.nodes.trans first.nodes
  places := second.places.trans first.places
  keyIds := second.keyIds.trans first.keyIds
  keys id := (first.keys id).trans (second.keys id)
  json := second.json.trans first.json

theorem annotates_assignTags (names : List String) (doc : Document) (table : TagTable) :
    doc.Annotates names (doc.assignTags table) :=
  annotates_of_keys rfl (fun _ => Array.getElem?_map)
    fun _ key => key.annotates_tagged names table

theorem annotates_setProperty {name : String} (listed : name ∈ names) (id : KeyId) (value : Json) :
    doc.Annotates names (doc.setProperty id name value) := by
  let change (index : Nat) (key : Key) :=
    if id.index = index then key.setProperty name value else key
  refine annotates_of_keys (f := change) rfl (fun index => ?_) fun index key => ?_
  · rw [getElem?_keys_setProperty]
    by_cases here : id.index = index <;> simp [change, here]
  · by_cases here : id.index = index
    · rw [show change index key = key.setProperty name value from if_pos here]
      exact Key.annotates_setProperty listed value
    · rw [show change index key = key from if_neg here]
      exact .refl names key

theorem annotates_written {annotations : List Annotation}
    (listed : ∀ note ∈ annotations, note.name ∈ names) :
    doc.Annotates names (doc.written annotations) := by
  induction annotations generalizing doc with
  | nil => exact .refl names doc
  | cons note rest ih =>
      have step : doc.Annotates names (doc.setProperty note.key note.name note.value) :=
        annotates_setProperty (listed note List.mem_cons_self) note.key note.value
      rw [written_cons]
      exact step.trans (ih fun other member => listed other (List.mem_cons_of_mem _ member))

theorem Annotates.textsOf_eq (annotated : before.Annotates names after) (id : KeyId) :
    after.textsOf id = before.textsOf id := by
  rw [textsOf, valueOf, place, annotated.places]
  rfl

end Document

theorem Rule.annotates_markApproved (template : Document) (conventions : Conventions) :
    template.Annotates [Property.preApproved] (markApproved template conventions) := by
  rw [markApproved_eq_written]
  apply Document.annotates_written
  intro note member
  obtain ⟨key, _, rfl⟩ := List.mem_map.mp member
  exact List.mem_singleton_self _

namespace Setup

variable (setup : Setup)

theorem annotates_prepareTemplate (template : Document) :
    template.Annotates [Property.preApproved] (setup.prepareTemplate template) :=
  (template.annotates_assignTags _ setup.tags).trans (Rule.annotates_markApproved _ setup.conventions)

/-- A verification adds tags and the properties of the rules to the keys of the model, tags and
approval to those of the template, and nothing else. It leaves the rows as the rules see them. -/
theorem verify_annotates (model template : Document) :
    model.Annotates [Property.validation, Property.coveringThreats]
      (setup.verify model template).model ∧
    template.Annotates [Property.preApproved] (setup.verify model template).template ∧
    RowIndex.build (setup.verify model template).model =
      (setup.startingScene model template).rows := by
  let scene := setup.startingScene model template
  have written : ∀ note ∈ setup.enabledRules.flatMap scene.annotationsFrom,
      note.name = Property.validation ∨ note.name = Property.coveringThreats := by
    intro note member
    obtain ⟨⟨name, rule, config⟩, _, found⟩ := List.mem_flatMap.mp member
    exact rule.annotation_name scene config found
  have unheeded : ∀ note ∈ setup.enabledRules.flatMap scene.annotationsFrom, ∀ value,
      Key.heeds [] note.name value = false := by
    intro note member value
    rcases written note member with name | name <;> rw [name] <;> rfl
  rw [verify_eq]
  refine ⟨?_, setup.annotates_prepareTemplate template, ?_⟩
  · have listed := fun note member => List.mem_pair.mpr (written note member)
    exact (model.annotates_assignTags _ setup.tags).trans (Document.annotates_written listed)
  · rw [← RowIndex.build_outline [], Document.outline_written unheeded, RowIndex.build_outline]
    rfl

end Setup

end ThreatModel
