import ThreatModel.Proofs.Document.Writing

/-!
Default tags. A table lists for a name what was inserted under it, in the order of the insertions. A key gets
the tags of its name that it lacks, after the tags it has, and the count that the pass keeps is by how much
the lists of tags grow. The pass may meet a key more than once without harm: what a key has got, it no
longer lacks.
-/

namespace ThreatModel

namespace Key

variable {key : Key} {tag : String}

/-- The tags that the key does not have, each once. -/
def lacking (key : Key) (tags : List String) : List String :=
  (tags.filter fun tag => !key.hasTag tag).eraseDups

theorem lacking_cons_of_hasTag (carried : key.hasTag tag) (rest : List String) :
    key.lacking (tag :: rest) = key.lacking rest := by
  simp [lacking, carried]

theorem lacking_cons_of_not_hasTag (absent : ¬ key.hasTag tag) (rest : List String) :
    key.lacking (tag :: rest) = tag :: (key.addTag tag).lacking rest := by
  have added : (key.addTag tag).tags = key.tags ++ [tag] := by
    rw [addTag, if_neg absent]
  have others : (rest.filter fun other => !key.hasTag other).filter (fun other => !other == tag) =
      rest.filter fun other => !(key.addTag tag).hasTag other := by
    rw [List.filter_filter]
    apply List.filter_congr
    intro other _
    by_cases same : other = tag <;> simp [hasTag, added, same]
  rw [lacking, lacking, List.filter_cons_of_pos (by simp [absent]), List.eraseDups_cons, others]

theorem addTags_eq (key : Key) (tags : List String) :
    key.addTags tags = { key with tags := key.tags ++ key.lacking tags } := by
  induction tags generalizing key with
  | nil => simp [addTags, lacking]
  | cons tag rest ih =>
      rw [addTags, List.foldl_cons, ← addTags, ih]
      by_cases carried : key.hasTag tag
      · rw [addTag, if_pos carried, lacking_cons_of_hasTag carried]
      · rw [lacking_cons_of_not_hasTag carried, addTag, if_neg carried, List.append_assoc]
        rfl

theorem addTagCounted_fst (done : Key × Nat) (tag : String) :
    (addTagCounted done tag).1 = done.1.addTag tag := by
  rw [addTagCounted, addTag]
  split <;> rfl

theorem addTagCounted_snd (done : Key × Nat) (tag : String) :
    (addTagCounted done tag).2 + done.1.tags.length =
      done.2 + (addTagCounted done tag).1.tags.length := by
  rw [addTagCounted]
  by_cases carried : done.1.hasTag tag
  · rw [if_pos carried]
  · rw [if_neg carried, addTag, if_neg carried, List.length_append, List.length_singleton]
    omega

theorem foldl_addTagCounted_fst (done : Key × Nat) (tags : List String) :
    (tags.foldl addTagCounted done).1 = done.1.addTags tags := by
  induction tags generalizing done with
  | nil => rfl
  | cons tag rest ih =>
      rw [List.foldl_cons, ih, addTagCounted_fst]
      rfl

theorem foldl_addTagCounted_snd (done : Key × Nat) (tags : List String) :
    (tags.foldl addTagCounted done).2 + done.1.tags.length =
      done.2 + (tags.foldl addTagCounted done).1.tags.length := by
  induction tags generalizing done with
  | nil => rfl
  | cons tag rest ih =>
      have step := addTagCounted_snd done tag
      have run := ih (addTagCounted done tag)
      rw [List.foldl_cons]
      omega

theorem addTagsCounted_fst (key : Key) (tags : List String) :
    (key.addTagsCounted tags).1 = key.addTags tags :=
  foldl_addTagCounted_fst (key, 0) tags

theorem addTagsCounted_snd (key : Key) (tags : List String) :
    (key.addTagsCounted tags).2 + key.tags.length = (key.addTags tags).tags.length := by
  have run := foldl_addTagCounted_snd (key, 0) tags
  rw [foldl_addTagCounted_fst, Nat.zero_add] at run
  exact run

end Key

namespace TagTable

variable {table : TagTable} {name other : String} {tags : List String}

@[simp] theorem tagsFor_empty : empty.tagsFor name = [] := rfl

theorem tagsFor_insert : (table.insert name tags).tagsFor other =
    if name = other then table.tagsFor name ++ tags else table.tagsFor other := by
  rw [tagsFor, insert, Properties.get?_put]
  split
  · rfl
  · rw [tagsFor]

/-- What lines of names and tags list under a name: its lines one after the other. -/
def listedUnder (name : String) (lines : List (String × List String)) : List String :=
  (lines.filter (·.1 == name)).flatMap (·.2)

theorem listedUnder_cons (line : String × List String) (rest : List (String × List String)) :
    listedUnder name (line :: rest) =
      (if line.1 = name then line.2 else []) ++ listedUnder name rest := by
  by_cases same : line.1 = name <;> simp [listedUnder, same]

/-- A name has one line in a table. -/
theorem tagsFor_eq_listedUnder (table : TagTable) (name : String) :
    table.tagsFor name = listedUnder name table.tags.entries := by
  rw [tagsFor, listedUnder, Properties.filter_entries]
  cases table.tags.get? name with
  | none => rfl
  | some tags => simp

/-- A table lists under a name all that was inserted for it, in the order of the insertions. -/
theorem tagsFor_foldl_insert (lines : List (String × List String)) :
    (lines.foldl (fun table line => table.insert line.1 line.2) table).tagsFor name =
      table.tagsFor name ++ listedUnder name lines := by
  induction lines generalizing table with
  | nil => exact (List.append_nil _).symm
  | cons line rest ih =>
      rw [List.foldl_cons, ih, tagsFor_insert, listedUnder_cons]
      by_cases same : line.1 = name
      · rw [if_pos same, if_pos same, same, List.append_assoc]
      · rw [if_neg same, if_neg same, List.nil_append]

/-- The default tags that a key is to get. -/
def newTags (table : TagTable) (key : Key) : List String :=
  if key.hasTag Tag.noDefaults then [] else key.lacking (listedUnder key.name table.tags.entries)

theorem tagged_eq (table : TagTable) (key : Key) :
    table.tagged key = { key with tags := key.tags ++ table.newTags key } := by
  rw [tagged, newTags]
  by_cases excluded : key.hasTag Tag.noDefaults
  · rw [if_pos excluded, if_pos excluded, List.append_nil]
  · rw [if_neg excluded, if_neg excluded, Key.addTags_eq, tagsFor_eq_listedUnder]

end TagTable

namespace Document

variable {doc : Document} {table : TagTable} {id : KeyId} {old : Key} {done : Document × Nat}

theorem getElem?_keys_setKey (key : Key) (index : Nat) :
    (doc.setKey id key).keys[index]? =
      if id.index = index then doc.keys[index]?.map fun _ => key else doc.keys[index]? := by
  rw [setKey, Array.getElem?_setIfInBounds]
  split
  · next here =>
      subst here
      split
      · next inRange => rw [Array.getElem?_eq_getElem inRange, Option.map_some]
      · next beyond => rw [Array.getElem?_eq_none (Nat.le_of_not_lt beyond), Option.map_none]
  · rfl

theorem setKey_self (found : doc.keys[id.index]? = some old) : doc.setKey id old = doc := by
  apply ext_keys
  · rfl
  · apply Array.ext_getElem?
    intro index
    rw [getElem?_keys_setKey]
    split
    · next here =>
        subst here
        rw [found, Option.map_some]
    · rfl

theorem length_tags_set {keys : List Key} {index : Nat} (found : keys[index]? = some old) (key : Key) :
    ((keys.set index key).flatMap (·.tags)).length + old.tags.length =
      (keys.flatMap (·.tags)).length + key.tags.length := by
  induction keys generalizing index with
  | nil => cases found
  | cons first rest ih =>
      cases index with
      | zero =>
          obtain rfl : first = old := by simpa using found
          simp only [List.set_cons_zero, List.flatMap_cons, List.length_append]
          omega
      | succ index =>
          have inRest : ((rest.set index key).flatMap (·.tags)).length + old.tags.length =
              (rest.flatMap (·.tags)).length + key.tags.length := ih (by simpa using found)
          simp only [List.set_cons_succ, List.flatMap_cons, List.length_append]
          omega

theorem tagCount_setKey (found : doc.keys[id.index]? = some old) (key : Key) :
    (doc.setKey id key).tagCount + old.tags.length = doc.tagCount + key.tags.length := by
  have listed : doc.keys.toList[id.index]? = some old := by rwa [Array.getElem?_toList]
  simpa [tagCount, setKey] using length_tags_set listed key

theorem tagKeyCounted_fst (found : done.1.keys[id.index]? = some old) :
    (tagKeyCounted table done id).1 = done.1.setKey id (table.tagged old) := by
  have isOld : done.1.key id = old := by rw [key, found, Option.getD_some]
  rw [tagKeyCounted, isOld, TagTable.tagged]
  by_cases excluded : old.hasTag Tag.noDefaults
  · rw [if_pos excluded, if_pos excluded, setKey_self found]
  · rw [if_neg excluded, if_neg excluded, ← Key.addTagsCounted_fst]

theorem tagKeyCounted_snd (found : done.1.keys[id.index]? = some old) :
    (tagKeyCounted table done id).2 + old.tags.length = done.2 + (table.tagged old).tags.length := by
  have isOld : done.1.key id = old := by rw [key, found, Option.getD_some]
  rw [tagKeyCounted, isOld, TagTable.tagged]
  by_cases excluded : old.hasTag Tag.noDefaults
  · rw [if_pos excluded, if_pos excluded]
  · have growth := old.addTagsCounted_snd (table.tagsFor old.name)
    rw [if_neg excluded, if_neg excluded, ← growth]
    exact Nat.add_assoc _ _ _

/-- What the pass over some keys has done: these keys, and no others, have their default tags, and the
count has grown as the tags have. -/
structure Tagged (table : TagTable) (ids : List KeyId) (before after : Document × Nat) : Prop where
  source : after.1.source = before.1.source
  keys : ∀ index : Nat, after.1.keys[index]? =
    if ⟨index⟩ ∈ ids then before.1.keys[index]?.map table.tagged else before.1.keys[index]?
  count : after.2 + before.1.tagCount = before.2 + after.1.tagCount

theorem tagged_tagKeyCounted (found : done.1.keys[id.index]? = some old) :
    Tagged table [id] done (tagKeyCounted table done id) where
  source := by rw [tagKeyCounted_fst found]; rfl
  keys index := by
    rw [tagKeyCounted_fst found, getElem?_keys_setKey]
    by_cases here : id.index = index
    · subst here
      simp [found]
    · have other : (⟨index⟩ : KeyId) ≠ id := fun same => here (congrArg KeyId.index same.symm)
      simp [here, other]
  count := by
    have counted : (tagKeyCounted table done id).2 + old.tags.length =
        done.2 + (table.tagged old).tags.length := tagKeyCounted_snd found
    have grown := tagCount_setKey found (table.tagged old)
    rw [tagKeyCounted_fst found]
    omega

theorem Tagged.trans {first second : List KeyId} {before middle after : Document × Nat}
    (early : Tagged table first before middle) (late : Tagged table second middle after) :
    Tagged table (first ++ second) before after where
  source := late.source.trans early.source
  keys index := by
    rw [late.keys, early.keys]
    by_cases inFirst : ⟨index⟩ ∈ first
    · by_cases inSecond : ⟨index⟩ ∈ second
      · have again : (table.tagged ·) ∘ (table.tagged ·) = (table.tagged ·) :=
          funext fun key => TagTable.tagged_tagged
        simp [inFirst, inSecond, again]
      · simp [inFirst, inSecond]
    · simp [inFirst]
  count := by
    have countEarly := early.count
    have countLate := late.count
    omega

theorem tagged_foldl {ids : List KeyId} (inTable : ∀ id ∈ ids, id.index < done.1.keys.size) :
    Tagged table ids done (ids.foldl (tagKeyCounted table) done) := by
  induction ids generalizing done with
  | nil => exact ⟨rfl, fun _ => rfl, rfl⟩
  | cons id rest ih =>
      have found := Array.getElem?_eq_getElem (inTable id List.mem_cons_self)
      have first : Tagged table [id] done (tagKeyCounted table done id) := tagged_tagKeyCounted found
      have sameSize : (tagKeyCounted table done id).1.keys.size = done.1.keys.size := by
        rw [Document.keys_size, Document.keys_size, first.source]
      refine first.trans (ih fun other member => ?_)
      rw [sameSize]
      exact inTable other (List.mem_cons_of_mem _ member)

theorem mem_keyIds_iff_lt : id ∈ doc.keyIds ↔ id.index < doc.keys.size := by
  rw [keyIds, List.mem_map]
  constructor
  · intro listed
    obtain ⟨index, inRange, rfl⟩ := listed
    exact List.mem_range.mp inRange
  · intro inTable
    exact ⟨id.index, List.mem_range.mpr inTable, rfl⟩

theorem tagged_assignTagsCounted (doc : Document) (table : TagTable) :
    Tagged table doc.keyIds (doc, 0) (doc.assignTagsCounted table) :=
  tagged_foldl fun _ isKey => mem_keyIds_iff_lt.mp isKey

theorem assignTagsCounted_fst (doc : Document) (table : TagTable) :
    (doc.assignTagsCounted table).1 = doc.assignTags table := by
  have pass := doc.tagged_assignTagsCounted table
  apply ext_keys
  · exact pass.source
  · apply Array.ext_getElem?
    intro index
    rw [pass.keys, keys_assignTags, Array.getElem?_map]
    split
    · rfl
    · next beyond =>
        rw [mem_keyIds_iff_lt, Nat.not_lt] at beyond
        rw [Array.getElem?_eq_none beyond, Option.map_none]

theorem assignTagsCounted_snd (doc : Document) (table : TagTable) :
    (doc.assignTagsCounted table).2 + doc.tagCount = (doc.assignTags table).tagCount := by
  have run : (doc.assignTagsCounted table).2 + doc.tagCount =
      0 + (doc.assignTagsCounted table).1.tagCount := (doc.tagged_assignTagsCounted table).count
  rw [assignTagsCounted_fst, Nat.zero_add] at run
  exact run

/-- Every key that is not marked against it gets the tags of its name that it lacks, in the order of the
table and each once, whatever the table repeats or lists; nothing else changes. The count is by how much the
tags grow, so a second pass counts none and changes nothing. -/
theorem assignTagsCounted_exact (doc : Document) (table : TagTable) :
    ∃ after added, doc.assignTagsCounted table = (after, added) ∧
      after.keys = doc.keys.map (fun key => { key with tags := key.tags ++ table.newTags key }) ∧
      after.source = doc.source ∧ after.root = doc.root ∧ after.nodes = doc.nodes ∧
      after.places = doc.places ∧
      after.tagCount = doc.tagCount + added ∧
      after.assignTagsCounted table = (after, 0) := by
  have growth := doc.assignTagsCounted_snd table
  have growthAgain := (doc.assignTags table).assignTagsCounted_snd table
  rw [assignTags_assignTags] at growthAgain
  refine ⟨doc.assignTags table, (doc.assignTagsCounted table).2,
    Prod.ext (doc.assignTagsCounted_fst table) rfl, ?_, rfl, rfl, rfl, rfl, ?_, Prod.ext ?_ ?_⟩
  · rw [keys_assignTags, funext table.tagged_eq]
  · omega
  · rw [assignTagsCounted_fst, assignTags_assignTags]
  · change _ = 0
    omega

/-- The table may list the tag that keeps defaults away: it works from the next pass on. -/
example :
    let doc := ofNode (.map [(.withTags "asset" ["asset-name"], .ofString "db")])
    let table := TagTable.empty.insert "asset" ["mandatory", "asset-name", "no-defaults", "mandatory"]
    let (after, added) := doc.assignTagsCounted table
    (after.key ⟨0⟩).tags = ["asset-name", "mandatory", "no-defaults"] ∧ added = 2 ∧
      (after.assignTagsCounted (table.insert "asset" ["row-identifier"])).2 = 0 := by
  decide

end Document

end ThreatModel
