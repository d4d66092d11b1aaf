import ThreatModel.Proofs.Scheme.Strict
import ThreatModel.Proofs.Settings.Records

/-!
Schemes as JSON. What is written of a definition is read back as the definition: a single query and a
list of them, a key that is a name and one that is an object, absent entries and no entries stay apart.
The names in a definition have to be distinct for that, and those of every definition that was read are.
-/

namespace ThreatModel.ValueDef

open Source (ofMembers names_ofMembers)

/-- Induction over a definition, with the hypothesis of the definitions that its entries have. -/
@[elab_as_elim]
theorem induction {motive : ValueDef → Prop}
    (step : ∀ getData mapData output, (∀ entries ∈ mapData, ∀ entry ∈ entries, motive entry.2) →
      motive ⟨getData, mapData, output⟩) (definition : ValueDef) : motive definition := by
  apply @ValueDef.rec motive (fun mapData => ∀ entries ∈ mapData, ∀ entry ∈ entries, motive entry.2)
    (fun entries => ∀ entry ∈ entries, motive entry.2) (fun entry => motive entry.2)
  · exact step
  · nofun
  · intro entries holds listed same
    rwa [← Option.some.inj same]
  · exact List.forall_mem_nil _
  · intro head rest headHolds restHolds
    exact List.forall_mem_cons.mpr ⟨headHolds, restHolds⟩
  · intro key value holds
    exact holds

/-- The queries of a definition have parameters of distinct names, none of which is the name under which
the type stands, and its post-processors have distinct names. -/
structure WellNamed (definition : ValueDef) : Prop where
  queries : ∀ query ∈ definition.getData.queries,
    (query.params.map (·.1)).Nodup ∧ "type" ∉ query.params.map (·.1)
  processors : ((Registry.processorsOf definition.output).map (·.1)).Nodup

instance (definition : ValueDef) : Decidable definition.WellNamed :=
  decidable_of_iff
    ((∀ query ∈ definition.getData.queries,
      (query.params.map (·.1)).Nodup ∧ "type" ∉ query.params.map (·.1)) ∧
      ((Registry.processorsOf definition.output).map (·.1)).Nodup)
    ⟨fun ⟨queries, processors⟩ => ⟨queries, processors⟩, fun named => ⟨named.queries, named.processors⟩⟩

theorem definitionsOfEntries_eq_flatMap (entries : List (KeySpec × ValueDef)) :
    definitionsOfEntries entries = entries.flatMap fun entry => entry.2.definitions := by
  induction entries with
  | nil => rfl
  | cons entry rest ih => rw [definitionsOfEntries, ih, List.flatMap_cons]

/-- A key with a definition that nests less deep than `fuel`. -/
def readKeyed? (fuel : Nat) (source : Source) : Option (KeySpec × ValueDef) := do
  let record ← source.record? ["key", "value"] true
  let key ← Source.required? record "key" readKey?
  let value ← Source.withDefault? record "value" (read? fuel) passing
  some (key, value)

theorem read?_succ (fuel : Nat) (source : Source) :
    read? (fuel + 1) source =
      (source.record? ["get-data", "map-data", "output-data"] true).bind fun record =>
        (Source.withDefault? record "get-data" readGetData? (.many [])).bind fun getData =>
          (Source.withDefault? record "map-data"
            (Source.optional? (Source.listOf? (readKeyed? fuel))) none).bind fun mapData =>
            (Source.withDefault? record "output-data" (Source.optional? readOutput?) none).bind
              fun output => some ⟨getData, mapData, output⟩ := rfl

section Written

def entryToJson (entry : KeySpec × ValueDef) : Json :=
  .object [("key", keyToJson entry.1), ("value", toJson entry.2)]

theorem entriesToJson_eq_map (entries : List (KeySpec × ValueDef)) :
    entriesToJson entries = entries.map entryToJson := by
  induction entries with
  | nil => rfl
  | cons entry rest ih => rw [entriesToJson, ih, List.map_cons, entryToJson]

def members (definition : ValueDef) : List (String × Json) :=
  ("get-data", getDataToJson definition.getData) ::
    ((definition.mapData.map fun entries =>
      ("map-data", Json.array (entries.map entryToJson))).toList ++
    (definition.output.map fun output => ("output-data", outputToJson output)).toList)

theorem toJson_eq (definition : ValueDef) : definition.toJson = .object definition.members := by
  obtain ⟨getData, mapData, output⟩ := definition
  rw [toJson, members]
  cases mapData with
  | none => rfl
  | some entries =>
      rw [mapDataToJson, entriesToJson_eq_map]
      rfl

theorem readQuery?_queryToJson {query : QuerySpec} (distinct : (query.params.map (·.1)).Nodup)
    (noType : "type" ∉ query.params.map (·.1)) :
    readQuery? (.json (queryToJson query)) = some query := by
  have otherNames : ∀ member ∈ ofMembers query.params, member.1 ≠ "type" := by
    intro member listed same
    apply noType
    rw [← same, ← names_ofMembers]
    exact List.mem_map_of_mem listed
  have members : (Source.json (queryToJson query)).settled.members? =
      some (("type", .json (.string query.name)) :: ofMembers query.params) := rfl
  have types : (ofMembers query.params).filter (·.1 == "type") = [] :=
    List.filter_eq_nil_iff.mpr fun member listed => by simpa using otherNames member listed
  have others : (ofMembers query.params).filter (·.1 != "type") = ofMembers query.params :=
    List.filter_eq_self.mpr fun member listed => by simpa using otherNames member listed
  have settled : Source.settleEntries [] (ofMembers query.params) = query.params :=
    Source.settleEntries_ofMembers distinct
  simp [readQuery?, members, types, others, settled, Source.settle, Json.asString?]

theorem readGetData?_getDataToJson {getData : GetData}
    (named : ∀ query ∈ getData.queries,
      (query.params.map (·.1)).Nodup ∧ "type" ∉ query.params.map (·.1)) :
    readGetData? (.json (getDataToJson getData)) = some getData := by
  have back : ∀ query ∈ getData.queries, readQuery? (.json (queryToJson query)) = some query :=
    fun query listed => readQuery?_queryToJson (named query listed).1 (named query listed).2
  cases getData with
  | one query =>
      have noItems : (Source.json (getDataToJson (.one query))).settled.items? = none := rfl
      rw [readGetData?, noItems, getDataToJson, back query (List.mem_singleton_self query)]
      rfl
  | many queries =>
      have items : (Source.json (getDataToJson (.many queries))).settled.items? =
          some (queries.map fun query => .json (queryToJson query)) :=
        congrArg some List.map_map
      rw [readGetData?, items]
      exact congrArg (Option.map GetData.many) (mapM_map_eq_some back)

def keyMembers (name : String) (section? : Option String) (tags : List String) : List (String × Json) :=
  ("name", .string name) :: ((section?.map fun title => ("section", .string title)).toList ++
    if tags.isEmpty then [] else [("tags", .ofStrings tags)])

theorem readKey?_keyToJson (key : KeySpec) : readKey? (.json (keyToJson key)) = some key := by
  cases key with
  | plain name => rfl
  | full name section? tags =>
      let members := keyMembers name section? tags
      have given : (Source.json (keyToJson (.full name section? tags))).settled.members? =
          some (ofMembers members) := rfl
      have named : (members.map (·.1)).Sublist ["name", "section", "tags"] := by
        cases section? <;> cases tags <;> simp [members, keyMembers]
      have record : (Source.map (ofMembers members)).record? ["name", "section", "tags"] false =
          some (ofMembers members) := Source.record?_ofMembers rfl named (by decide)
      have readName : Source.required? (ofMembers members) "name" Source.string? = some name := rfl
      have readTitle : Source.withDefault? (ofMembers members) "section"
          (Source.optional? Source.string?) none = some section? := by
        refine Source.withDefault?_optional .string ?_ fun _ _ => rfl
        simp [members, keyMembers]
      have readTags : Source.withDefault? (ofMembers members) "tags" Source.strings? [] =
          some tags := by
        refine Source.withDefault?_unlessEmpty .ofStrings ?_ (Source.strings?_ofStrings tags)
        simp [members, keyMembers]
      have notString : (Source.json (keyToJson (.full name section? tags))).settle.asString? =
          none := rfl
      simp [readKey?, notString, given, record, readName, readTitle, readTags]

def shapeWord : OutputShape → String
  | .list => "list"
  | .dict => "dict"

def outputMembers (output : OutputSpec) : List (String × Json) :=
  (output.shape.map fun shape => ("type", Json.string (shapeWord shape))).toList ++
    if output.processors.isEmpty then [] else [("post-processor", .object output.processors)]

theorem names_outputMembers (output : OutputSpec) :
    ((outputMembers output).map (·.1)).Sublist ["type", "post-processor"] := by
  obtain ⟨shape, processors⟩ := output
  cases shape <;> cases processors <;> simp [outputMembers]

theorem readOutput?_outputToJson {output : OutputSpec}
    (distinct : (output.processors.map (·.1)).Nodup) :
    readOutput? (.json (outputToJson output)) = some output := by
  have record : (Source.json (outputToJson output)).record? ["type", "post-processor"] true =
      some (ofMembers (outputMembers output)) :=
    Source.record?_ofMembers rfl (names_outputMembers output) (by decide)
  have readShape : Source.withDefault? (ofMembers (outputMembers output)) "type" (Source.optional?
      (Source.choice? [("list", OutputShape.list), ("dict", .dict)])) none = some output.shape := by
    refine Source.withDefault?_optional (fun shape => .string (shapeWord shape)) ?_ ?_
    · simp [outputMembers]
    · rintro (_ | _) _ <;> rfl
  have readProcessors : Source.withDefault? (ofMembers (outputMembers output)) "post-processor"
      readNamed? [] = some output.processors := by
    refine Source.withDefault?_unlessEmpty .object ?_ ?_
    · simp [outputMembers]
    · exact congrArg some (Source.settleEntries_ofMembers distinct)
  simp [readOutput?, record, readShape, readProcessors]

theorem readKeyed?_entryToJson {fuel : Nat} {entry : KeySpec × ValueDef}
    (value : read? fuel (.json entry.2.toJson) = some entry.2) :
    readKeyed? fuel (.json (entryToJson entry)) = some entry := by
  have record : (Source.json (entryToJson entry)).record? ["key", "value"] true =
      some (ofMembers [("key", keyToJson entry.1), ("value", toJson entry.2)]) :=
    Source.record?_ofMembers rfl (by simp) (by decide)
  simp [readKeyed?, record, Json.lookup?_cons, readKey?_keyToJson, value]

theorem names_members (definition : ValueDef) :
    (definition.members.map (·.1)).Sublist ["get-data", "map-data", "output-data"] := by
  obtain ⟨getData, mapData, output⟩ := definition
  cases mapData <;> cases output <;> simp [members]

variable {getData : GetData} {mapData : Option (List (KeySpec × ValueDef))} {output : Option OutputSpec}
  {entries : List (KeySpec × ValueDef)} {entry : KeySpec × ValueDef}

theorem height_lt_of_mem (listed : entries ∈ mapData) (member : entry ∈ entries) :
    entry.2.toJson.height < (toJson ⟨getData, mapData, output⟩).height := by
  have inEntry : entry.2.toJson.height < (entryToJson entry).height :=
    Json.height_lt_of_mem_object (List.mem_cons_of_mem _ (List.mem_singleton_self _))
  have inArray : (entryToJson entry).height < (Json.array (entries.map entryToJson)).height :=
    Json.height_lt_of_mem_array (List.mem_map_of_mem member)
  have isMember : ("map-data", Json.array (entries.map entryToJson)) ∈
      members ⟨getData, mapData, output⟩ := by
    simp [members, Option.mem_def.mp listed]
  rw [toJson_eq ⟨getData, mapData, output⟩]
  exact Nat.lt_trans inEntry (Nat.lt_trans inArray (Json.height_lt_of_mem_object isMember))

theorem mem_definitionsOfMapData (listed : entries ∈ mapData) (member : entry ∈ entries) :
    ∀ inner ∈ entry.2.definitions, inner ∈ definitionsOfMapData mapData := by
  intro inner inEntry
  rw [Option.mem_def.mp listed, definitionsOfMapData, definitionsOfEntries_eq_flatMap]
  exact List.mem_flatMap.mpr ⟨entry, member, inEntry⟩

theorem readEntries?_entriesToJson {fuel : Nat}
    (values : ∀ entry ∈ entries, read? fuel (.json entry.2.toJson) = some entry.2) :
    Source.optional? (Source.listOf? (readKeyed? fuel)) (.json (.array (entries.map entryToJson))) =
      some (some entries) := by
  have back : ∀ entry ∈ entries, readKeyed? fuel (.json (entryToJson entry)) = some entry :=
    fun entry member => readKeyed?_entryToJson (values entry member)
  have items : Source.listOf? (readKeyed? fuel) (.json (.array (entries.map entryToJson))) =
      some entries := by
    rw [Source.listOf?, Source.items?, Option.bind_some, List.map_map]
    exact mapM_map_eq_some back
  exact congrArg (Option.map some) items

theorem read?_toJson (definition : ValueDef) (named : ∀ inner ∈ definition.definitions, inner.WellNamed)
    (fuel : Nat) (deep : definition.toJson.height < fuel) :
    read? fuel (.json definition.toJson) = some definition := by
  -- Over the definition and not over the fuel: fields are read one after the other with the fuel that is
  -- left, which is enough for what nests less deep.
  induction definition using induction generalizing fuel with
  | step getData mapData output ih =>
      obtain ⟨own, inner⟩ := List.forall_mem_cons.mp named
      cases fuel with
      | zero => exact absurd deep (Nat.not_lt_zero _)
      | succ fuel =>
          have record : (Source.json (toJson ⟨getData, mapData, output⟩)).record?
              ["get-data", "map-data", "output-data"] true =
              some (ofMembers (members ⟨getData, mapData, output⟩)) := by
            rw [toJson_eq]
            exact Source.record?_ofMembers rfl (names_members _) (by decide)
          have readGet : Source.withDefault? (ofMembers (members ⟨getData, mapData, output⟩)) "get-data"
              readGetData? (.many []) = some getData := by
            simp [members, readGetData?_getDataToJson own.queries]
          have values : ∀ entries ∈ mapData, ∀ entry ∈ entries,
              read? fuel (.json entry.2.toJson) = some entry.2 := by
            intro entries listed entry member
            have nested : ∀ definition ∈ entry.2.definitions, definition.WellNamed :=
              fun definition inEntry =>
                inner definition (mem_definitionsOfMapData listed member definition inEntry)
            exact ih entries listed entry member nested fuel
              (Nat.lt_of_lt_of_le (height_lt_of_mem listed member) (Nat.le_of_lt_succ deep))
          have readMap : Source.withDefault? (ofMembers (members ⟨getData, mapData, output⟩)) "map-data"
              (Source.optional? (Source.listOf? (readKeyed? fuel))) none = some mapData := by
            refine Source.withDefault?_optional (fun entries => .array (entries.map entryToJson)) ?_ ?_
            · simp [members]
            · exact fun entries listed => readEntries?_entriesToJson (values entries listed)
          have readOut : Source.withDefault? (ofMembers (members ⟨getData, mapData, output⟩))
              "output-data" (Source.optional? readOutput?) none = some output := by
            refine Source.withDefault?_optional outputToJson ?_ ?_
            · simp [members]
            · rintro spec rfl
              exact congrArg (Option.map some) (readOutput?_outputToJson own.processors)
          simp only [read?_succ, record, readGet, readMap, readOut, Option.bind_some]

end Written

section Read

theorem wellNamed_of_readQuery? {source : Source} {query : QuerySpec}
    (given : readQuery? source = some query) :
    (query.params.map (·.1)).Nodup ∧ "type" ∉ query.params.map (·.1) := by
  obtain ⟨members, -, given⟩ := Option.bind_eq_some_iff.mp given
  have params : query.params = Source.settleEntries [] (members.filter (·.1 != "type")) := by
    dsimp only at given
    split at given
    · obtain ⟨name, -, given⟩ := Option.bind_eq_some_iff.mp given
      cases given
      rfl
    · cases given
  rw [params]
  refine ⟨Source.nodup_settleEntries List.nodup_nil, fun present => ?_⟩
  rcases Source.mem_names_settleEntries present with inNone | inOthers
  · cases inNone
  · obtain ⟨member, others, named⟩ := List.mem_map.mp inOthers
    have unlike := (List.mem_filter.mp others).2
    simp [named] at unlike

theorem readQuery?_of_readGetData? {source : Source} {getData : GetData}
    (given : readGetData? source = some getData) {query : QuerySpec} (listed : query ∈ getData.queries) :
    ∃ inner, readQuery? inner = some query := by
  rw [readGetData?] at given
  split at given
  · obtain ⟨queries, all, same⟩ := Option.map_eq_some_iff.mp given
    cases same
    obtain ⟨item, -, itemRead⟩ := exists_of_mapM_eq_some all listed
    exact ⟨item, itemRead⟩
  · obtain ⟨only, onlyRead, same⟩ := Option.map_eq_some_iff.mp given
    cases same
    cases List.mem_singleton.mp listed
    exact ⟨source, onlyRead⟩

theorem nodup_processors_of_readOutput? {source : Source} {output : OutputSpec}
    (given : readOutput? source = some output) : (output.processors.map (·.1)).Nodup := by
  obtain ⟨record, -, given⟩ := Option.bind_eq_some_iff.mp given
  obtain ⟨shape, -, given⟩ := Option.bind_eq_some_iff.mp given
  obtain ⟨processors, processorsRead, given⟩ := Option.bind_eq_some_iff.mp given
  cases given
  rcases Source.default_or_read processorsRead with rfl | ⟨inner, named⟩
  · exact List.nodup_nil
  · obtain ⟨members, -, rfl⟩ := Option.map_eq_some_iff.mp named
    exact Source.nodup_settleEntries List.nodup_nil

theorem passing_or_read?_of_readKeyed? {fuel : Nat} {source : Source} {entry : KeySpec × ValueDef}
    (given : readKeyed? fuel source = some entry) :
    entry.2 = passing ∨ ∃ inner, read? fuel inner = some entry.2 := by
  obtain ⟨record, -, given⟩ := Option.bind_eq_some_iff.mp given
  obtain ⟨key, -, given⟩ := Option.bind_eq_some_iff.mp given
  obtain ⟨value, valueRead, given⟩ := Option.bind_eq_some_iff.mp given
  cases given
  exact Source.default_or_read valueRead

theorem wellNamed_passing : passing.WellNamed :=
  ⟨List.forall_mem_nil _, List.nodup_nil⟩

theorem wellNamed_of_read? {fuel : Nat} {source : Source} {definition : ValueDef}
    (given : read? fuel source = some definition) :
    ∀ inner ∈ definition.definitions, inner.WellNamed := by
  induction fuel generalizing source definition with
  | zero => cases given
  | succ fuel ih =>
      rw [read?_succ] at given
      obtain ⟨record, -, given⟩ := Option.bind_eq_some_iff.mp given
      obtain ⟨getData, getRead, given⟩ := Option.bind_eq_some_iff.mp given
      obtain ⟨mapData, mapRead, given⟩ := Option.bind_eq_some_iff.mp given
      obtain ⟨output, outputRead, given⟩ := Option.bind_eq_some_iff.mp given
      cases given
      have queries : ∀ query ∈ getData.queries,
          (query.params.map (·.1)).Nodup ∧ "type" ∉ query.params.map (·.1) := by
        intro query listed
        rcases Source.default_or_read getRead with rfl | ⟨inner, innerRead⟩
        · cases listed
        · obtain ⟨object, objectRead⟩ := readQuery?_of_readGetData? innerRead listed
          exact wellNamed_of_readQuery? objectRead
      have processors : ((Registry.processorsOf output).map (·.1)).Nodup := by
        cases output with
        | none => exact List.nodup_nil
        | some spec =>
            obtain ⟨inner, innerRead⟩ := Source.exists_of_mem_withDefault? outputRead rfl
            exact nodup_processors_of_readOutput? innerRead
      have entries : ∀ inner ∈ definitionsOfMapData mapData, inner.WellNamed := by
        cases mapData with
        | none => exact List.forall_mem_nil _
        | some entries =>
            obtain ⟨inner, entriesRead⟩ := Source.exists_of_mem_withDefault? mapRead rfl
            obtain ⟨items, -, all⟩ := Option.bind_eq_some_iff.mp entriesRead
            intro nested inEntries
            rw [definitionsOfMapData, definitionsOfEntries_eq_flatMap] at inEntries
            obtain ⟨entry, listed, inEntry⟩ := List.mem_flatMap.mp inEntries
            obtain ⟨item, -, itemRead⟩ := exists_of_mapM_eq_some all listed
            rcases passing_or_read?_of_readKeyed? itemRead with passes | ⟨value, valueRead⟩
            · rw [passes] at inEntry
              cases List.mem_singleton.mp inEntry
              exact wellNamed_passing
            · exact ih valueRead nested inEntry
      exact List.forall_mem_cons.mpr ⟨⟨queries, processors⟩, entries⟩

end Read

/-- A definition is read back from what is written of it just where the names in it are distinct and no
parameter is called `type`, and so it is with every definition that was read. -/
theorem read_back_iff_wellNamed (definition : ValueDef) :
    (ofJson? definition.toJson = some definition ↔ ∀ inner ∈ definition.definitions, inner.WellNamed) ∧
    ∀ source, ofSource? source = some definition → ofJson? definition.toJson = some definition := by
  have back : (∀ inner ∈ definition.definitions, inner.WellNamed) →
      ofJson? definition.toJson = some definition :=
    fun named => read?_toJson definition named _ (Nat.lt_succ_self _)
  exact ⟨⟨wellNamed_of_read?, back⟩, fun source given => back (wellNamed_of_read? given)⟩

/-- A table of assets, whose storage maps to an object of no entries. -/
def assetTable : ValueDef where
  getData := .many [⟨"table", [("name", .string "assets"), ("header", .bool true)]⟩]
  mapData := some [
    (.full "asset-name" none ["row-identifier"],
      ⟨.one ⟨"attribute", [("name", .string "Name")]⟩, none, none⟩),
    (.plain "storage", ⟨.one ⟨"attribute", [("name", .string "Storage")]⟩, some [], none⟩)]
  output := some ⟨some .list, [("strip-whitespace", .null), ("remove-empty-rows", .array [])]⟩

theorem assetTable_read_back : ofJson? assetTable.toJson = some assetTable :=
  (read_back_iff_wellNamed assetTable).1.mpr (by decide +kernel)

end ThreatModel.ValueDef
