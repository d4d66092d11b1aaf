import ThreatModel.Properties

/-!
A finite map is known by its lookups: putting a value changes the lookup of its name alone, and maps
with the same lookups are equal.
-/

namespace ThreatModel

theorem find?_putSorted (name other : String) (value : α) (entries : List (String × α)) :
    ((putSorted name value entries).find? (·.1 == other)).map (·.2) =
      if name = other then some value else (entries.find? (·.1 == other)).map (·.2) := by
  induction entries with
  | nil => by_cases same : name = other <;> simp [putSorted, same]
  | cons first rest ih =>
      obtain ⟨head, kept⟩ := first
      simp only [putSorted]
      split
      · by_cases same : name = other <;> simp [same]
      · split
        · next equal =>
            subst equal
            by_cases same : name = other <;> simp [same]
        · next different =>
            by_cases found : head = other
            · subst found
              simp [different]
            · simpa [found] using ih

namespace Properties

theorem get?_put (properties : Properties α) (name other : String) (value : α) :
    (properties.put name value).get? other =
      if name = other then some value else properties.get? other :=
  find?_putSorted name other value properties.entries

/-- Names increase, so an entry is the only one of its name and lookups find it. -/
theorem mem_entries_iff {properties : Properties α} {name : String} {value : α} :
    (name, value) ∈ properties.entries ↔ properties.get? name = some value := by
  obtain ⟨entries, sorted⟩ := properties
  simp only [get?]
  induction entries with
  | nil => simp
  | cons first rest ih =>
      obtain ⟨head, kept⟩ := first
      obtain ⟨below, restSorted⟩ := List.pairwise_cons.mp sorted
      by_cases found : head = name
      · subst found
        have absent : (head, value) ∉ rest := fun member =>
          String.lt_irrefl head (below _ member)
        simp [absent, eq_comm]
      · have different : name ≠ head := fun same => found same.symm
        simpa [found, different] using ih restSorted

theorem filter_entries (properties : Properties α) (name : String) :
    properties.entries.filter (·.1 == name) =
      ((properties.get? name).map fun value => (name, value)).toList := by
  obtain ⟨entries, sorted⟩ := properties
  simp only [get?]
  induction entries with
  | nil => rfl
  | cons first rest ih =>
      obtain ⟨head, kept⟩ := first
      obtain ⟨below, restSorted⟩ := List.pairwise_cons.mp sorted
      by_cases found : head = name
      · subst found
        have others : rest.filter (·.1 == head) = [] := by
          rw [List.filter_eq_nil_iff]
          intro entry member same
          exact String.lt_irrefl head (eq_of_beq same ▸ below entry member)
        simp [others]
      · simpa [found] using ih restSorted

theorem nodup_entries (properties : Properties α) : properties.entries.Nodup := by
  apply properties.sorted.imp
  intro first second before same
  subst same
  exact String.lt_irrefl _ before

theorem ext_get? {left right : Properties α} (same : ∀ name, left.get? name = right.get? name) :
    left = right := by
  apply ext_entries
  have members : left.entries.Perm right.entries :=
    (List.perm_ext_iff_of_nodup left.nodup_entries right.nodup_entries).mpr fun (name, value) => by
      rw [mem_entries_iff, mem_entries_iff, same]
  refine members.eq_of_pairwise (fun first second _ _ before after => ?_) left.sorted right.sorted
  exact absurd (String.lt_trans before after) (String.lt_irrefl _)

theorem eq_empty_of_isEmpty {properties : Properties α} (none_there : properties.isEmpty) :
    properties = .empty :=
  ext_entries (List.isEmpty_iff.mp none_there)

/-- The value that the last entry of a name puts. -/
def lastPut? (name : String) (entries : List (String × α)) : Option α :=
  (entries.reverse.find? (·.1 == name)).map (·.2)

theorem get?_putAll (properties : Properties α) (entries : List (String × α)) (name : String) :
    (properties.putAll entries).get? name = (lastPut? name entries).or (properties.get? name) := by
  induction entries generalizing properties with
  | nil => rfl
  | cons first rest ih =>
      have step := ih (properties.put first.1 first.2)
      rw [get?_put] at step
      rw [putAll, List.foldl_cons, ← putAll, step, lastPut?, lastPut?, List.reverse_cons,
        List.find?_append]
      by_cases same : first.1 = name <;> cases rest.reverse.find? (·.1 == name) <;> simp [same]

theorem lastPut?_eq_some {name : String} {value : α} {entries : List (String × α)}
    (listed : (name, value) ∈ entries) (only : ∀ other, (name, other) ∈ entries → other = value) :
    lastPut? name entries = some value := by
  rw [lastPut?]
  cases found : entries.reverse.find? (·.1 == name) with
  | none =>
      have absent := List.find?_eq_none.mp found (name, value) (List.mem_reverse.mpr listed)
      simp at absent
  | some last =>
      obtain ⟨lastName, lastValue⟩ := last
      obtain rfl : lastName = name := by simpa using List.find?_some found
      have member := List.mem_reverse.mp (List.mem_of_find?_eq_some found)
      exact congrArg some (only lastValue member)

theorem lastPut?_map (properties : Properties α) (f : α → β) (name : String) :
    lastPut? name (properties.entries.map fun entry => (entry.1, f entry.2)) =
      (properties.get? name).map f := by
  cases found : properties.get? name with
  | none =>
      have absent : ∀ entry ∈ properties.entries, entry.1 ≠ name := by
        rintro ⟨other, value⟩ listed rfl
        rw [mem_entries_iff, found] at listed
        cases listed
      rw [lastPut?, ← List.map_reverse, List.find?_map, List.find?_eq_none.mpr, Option.map_none]
      · rfl
      · intro entry listed
        simpa using absent entry (List.mem_reverse.mp listed)
  | some value =>
      apply lastPut?_eq_some
      · exact List.mem_map.mpr ⟨(name, value), mem_entries_iff.mpr found, rfl⟩
      · intro other listed
        obtain ⟨⟨_, value'⟩, member, same⟩ := List.mem_map.mp listed
        cases same
        rw [mem_entries_iff, found] at member
        cases member
        rfl

/-- Putting the same entries again changes nothing. -/
theorem putAll_putAll (properties : Properties α) (entries : List (String × α)) :
    (properties.putAll entries).putAll entries = properties.putAll entries := by
  apply ext_get?
  intro name
  rw [get?_putAll, get?_putAll]
  cases lastPut? name entries <;> rfl

/-- The part of a map that is wanted. -/
def keep (wanted : String → α → Bool) (properties : Properties α) : Properties α :=
  ⟨properties.entries.filter fun entry => wanted entry.1 entry.2, properties.sorted.filter _⟩

theorem get?_keep (wanted : String → α → Bool) (properties : Properties α) (name : String) :
    (properties.keep wanted).get? name = (properties.get? name).filter (wanted name) := by
  ext value
  rw [← mem_entries_iff, Option.filter_eq_some_iff, ← mem_entries_iff]
  simp [keep]

/-- Values under names that are never wanted leave no trace. -/
theorem keep_put {wanted : String → α → Bool} {name : String} (properties : Properties α)
    (value : α) (unwanted : ∀ value, wanted name value = false) :
    (properties.put name value).keep wanted = properties.keep wanted := by
  apply ext_get?
  intro other
  rw [get?_keep, get?_keep, get?_put]
  split
  · next same =>
      subst same
      cases properties.get? name <;> simp [Option.filter, unwanted]
  · rfl

theorem keep_put_congr {wanted : String → α → Bool} {left right : Properties α} (name : String)
    (value : α) (same : left.keep wanted = right.keep wanted) :
    (left.put name value).keep wanted = (right.put name value).keep wanted := by
  apply ext_get?
  intro other
  have sameOther := congrArg (·.get? other) same
  simp only [get?_keep] at sameOther
  rw [get?_keep, get?_keep, get?_put, get?_put]
  split
  · rfl
  · exact sameOther

end Properties

end ThreatModel
