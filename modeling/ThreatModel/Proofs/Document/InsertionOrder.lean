import ThreatModel.Proofs.Document.Insertion

/-!
A mapping told from what was inserted into it. Its names are those that were inserted, in the order in which
they came first; a name has the key it came with first and the value it came with last; and each insertion
gives the value that it takes the place of.
-/

namespace ThreatModel

namespace Mapping

variable {entries added : List (Key × Node)} {entry : Key × Node} {key : Key} {value : Node} {name : String}

theorem insertReturning_eq (entries : Mapping) (key : Key) (value : Node) :
    insertReturning entries key value = (get? entries key.name, insert entries key value) := by
  induction entries with
  | nil => rfl
  | cons first rest ih =>
      rw [insertReturning, insert, get?_cons]
      by_cases same : first.1.name = key.name
      · rw [if_pos same, if_pos same, if_pos same]
      · rw [if_neg same, if_neg same, if_neg same, ih]

theorem getKey?_cons (entry : Key × Node) (rest : Mapping) (name : String) :
    getKey? (entry :: rest) name = if entry.1.name = name then some entry.1 else getKey? rest name := by
  rw [getKey?, find?, List.find?_cons]
  by_cases same : entry.1.name = name
  · rw [if_pos same, beq_iff_eq.mpr same]
    rfl
  · rw [if_neg same, beq_false_of_ne same]
    rfl

theorem getKey?_insert (entries : Mapping) (key : Key) (value : Node) (name : String) :
    getKey? (insert entries key value) name = (getKey? entries name).or (getKey? [(key, value)] name) := by
  induction entries with
  | nil => rfl
  | cons first rest ih =>
      rw [insert]
      by_cases same : first.1.name = key.name
      · rw [if_pos same, getKey?_cons, getKey?_cons]
        by_cases here : first.1.name = name
        · rw [if_pos here, Option.some_or]
        · rw [if_neg here, getKey?_cons, if_neg (same ▸ here)]
          exact Option.or_none.symm
      · rw [if_neg same, getKey?_cons, getKey?_cons, ih]
        by_cases here : first.1.name = name
        · rw [if_pos here, if_pos here, Option.some_or]
        · rw [if_neg here, if_neg here]

/-- The key of a name is the first one that was inserted under it. -/
theorem getKey?_ofEntries (added : List (Key × Node)) (name : String) :
    getKey? (ofEntries added) name = getKey? added name := by
  induction added using List.reverseRecOn with
  | nil => rfl
  | append_singleton before last ih =>
      rw [ofEntries_concat, getKey?_insert, ih, getKey?, getKey?, getKey?, find?, find?, find?,
        List.find?_append, Option.map_or]

theorem getKey?_eq_some_iff_mem (distinct : (names entries).Nodup) :
    getKey? entries name = some key ↔ key.name = name ∧ ∃ value, (key, value) ∈ entries := by
  rw [getKey?, Option.map_eq_some_iff]
  simp only [find?_eq_some_iff_mem distinct]
  constructor
  · rintro ⟨⟨_, value⟩, ⟨named, member⟩, rfl⟩
    exact ⟨named, value, member⟩
  · rintro ⟨named, value, member⟩
    exact ⟨(key, value), ⟨named, member⟩, rfl⟩

theorem find?_eq_some_iff : find? entries name = some (key, value) ↔
    getKey? entries name = some key ∧ get? entries name = some value := by
  rw [getKey?, get?]
  cases find? entries name with
  | none => simp
  | some entry => simp [Prod.ext_iff]

theorem contains_iff : contains entries name = true ↔ name ∈ names entries := by
  rw [contains, get?, Option.isSome_map, find?, List.find?_isSome, names, List.mem_map]
  simp only [beq_iff_eq]

/-- The entry has the name. -/
def Under (name : String) (entry : Key × Node) : Prop := entry.1.name = name

theorem find?_iff_first : find? entries name = some entry ↔ FirstWhere (Under name) entries entry :=
  FirstWhere.find?_eq_some_iff fun _ => beq_iff_eq

theorem getKey?_iff_first :
    getKey? entries name = some key ↔ ∃ value, FirstWhere (Under name) entries (key, value) := by
  rw [getKey?, Option.map_eq_some_iff]
  constructor
  · rintro ⟨⟨_, value⟩, found, rfl⟩
    exact ⟨value, find?_iff_first.mp found⟩
  · rintro ⟨value, isFirst⟩
    exact ⟨_, find?_iff_first.mpr isFirst, rfl⟩

theorem get?_iff_first :
    get? entries name = some value ↔ ∃ key, FirstWhere (Under name) entries (key, value) := by
  rw [get?, Option.map_eq_some_iff]
  constructor
  · rintro ⟨⟨key, _⟩, found, rfl⟩
    exact ⟨key, find?_iff_first.mp found⟩
  · rintro ⟨key, isFirst⟩
    exact ⟨_, find?_iff_first.mpr isFirst, rfl⟩

/-- The mapping is what the insertions come to. -/
structure Collects (added : List (Key × Node)) (entries : Mapping) : Prop where
  distinct : (names entries).Nodup
  order : names entries = (names added).eraseDups
  /-- The key that came first under a name, and the value that came last. -/
  entry : ∀ key value, (key, value) ∈ entries ↔
    (∃ first, FirstWhere (Under key.name) added (key, first)) ∧
      ∃ last, FirstWhere (Under key.name) added.reverse (last, value)
  value : ∀ name value,
    get? entries name = some value ↔ ∃ key, key.name = name ∧ (key, value) ∈ entries
  key : ∀ name key,
    getKey? entries name = some key ↔ key.name = name ∧ ∃ value, (key, value) ∈ entries
  present : ∀ name, contains entries name = true ↔ name ∈ names added

theorem collects_ofEntries (added : List (Key × Node)) : Collects added (ofEntries added) := by
  have distinct := nodup_names_ofEntries added
  refine ⟨distinct, names_ofEntries added, ?_, fun _ _ => get?_eq_some_iff_mem distinct,
    fun _ _ => getKey?_eq_some_iff_mem distinct, ?_⟩
  · intro key value
    have stands : (key, value) ∈ ofEntries added ↔
        find? (ofEntries added) key.name = some (key, value) :=
      ((find?_eq_some_iff_mem distinct).trans (and_iff_right rfl)).symm
    rw [stands, find?_eq_some_iff, getKey?_ofEntries, get?_ofEntries, getKey?_iff_first, get?_iff_first]
  · intro name
    rw [contains_iff, names_ofEntries, List.mem_eraseDups]

/-- One insertion of a run. -/
def inserting (entry : Key × Node) : StateM Mapping (Option Node) := fun entries =>
  insertReturning entries entry.1 entry.2

theorem mapM_inserting_cons (entry : Key × Node) (rest : List (Key × Node)) (entries : Mapping) :
    (entry :: rest).mapM inserting entries =
      (get? entries entry.1.name :: (rest.mapM inserting (insert entries entry.1 entry.2)).1,
        (rest.mapM inserting (insert entries entry.1 entry.2)).2) := by
  have step : inserting entry entries = (get? entries entry.1.name, insert entries entry.1 entry.2) :=
    insertReturning_eq entries entry.1 entry.2
  rw [List.mapM_cons]
  change ((inserting entry entries).1 :: (rest.mapM inserting (inserting entry entries).2).1,
    (rest.mapM inserting (inserting entry entries).2).2) = _
  rw [step]

/-- A run leaves what the insertions come to. -/
theorem mapM_inserting_snd (added : List (Key × Node)) (entries : Mapping) :
    (added.mapM inserting entries).2 =
      added.foldl (fun done entry => insert done entry.1 entry.2) entries := by
  induction added generalizing entries with
  | nil => rfl
  | cons entry rest ih => rw [mapM_inserting_cons, List.foldl_cons, ih]

/-- Each insertion of a run gives the value that the insertions before it left under the name. -/
theorem getElem?_mapM_inserting (before after : List (Key × Node)) (entry : Key × Node)
    (entries : Mapping) :
    ((before ++ entry :: after).mapM inserting entries).1[before.length]? =
      some (get? (before.foldl (fun done entry => insert done entry.1 entry.2) entries) entry.1.name) := by
  induction before generalizing entries with
  | nil =>
      rw [List.nil_append, mapM_inserting_cons]
      rfl
  | cons first rest ih =>
      rw [List.cons_append, mapM_inserting_cons, List.length_cons, List.getElem?_cons_succ, ih]
      rfl

end Mapping

end ThreatModel
