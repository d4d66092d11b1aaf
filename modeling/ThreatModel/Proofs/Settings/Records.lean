import Mathlib.Data.List.Basic
import ThreatModel.Proofs.Document.Lossless
import ThreatModel.Settings.Source

/-!
Reading what was written as an object. An object whose names are distinct and known is read as the record
of its members, so a field is read from the member of its name, and an open-ended object is read as it
stands. What is read from an open-ended object has distinct names.
-/

namespace ThreatModel

namespace Json

variable {members more : List (String × Json)} {name other : String} {value : Json}

@[simp] theorem lookup?_cons :
    lookup? ((name, value) :: members) other =
      if name = other then some value else lookup? members other := by
  by_cases same : name = other
  · simp [lookup?, same]
  · simp [lookup?, same, beq_false_of_ne same]

@[simp] theorem lookup?_append :
    lookup? (members ++ more) name = (lookup? members name).or (lookup? more name) := by
  rw [lookup?, List.find?_append, lookup?, lookup?]
  cases members.find? (·.1 == name) <;> rfl

theorem names_putMember : (putMember members name value).map (·.1) =
    if name ∈ members.map (·.1) then members.map (·.1) else members.map (·.1) ++ [name] := by
  rw [putMember]
  by_cases present : name ∈ members.map (·.1)
  · have replaces : members.any (·.1 == name) = true := by simpa using present
    rw [if_pos present, if_pos replaces, List.map_map]
    refine List.map_congr_left fun member _ => ?_
    by_cases same : member.1 = name <;> simp [same]
  · have appends : ¬ members.any (·.1 == name) = true := by simpa using present
    rw [if_neg present, if_neg appends, List.map_append, List.map_singleton]

theorem nodup_putMember (distinct : (members.map (·.1)).Nodup) :
    ((putMember members name value).map (·.1)).Nodup := by
  rw [names_putMember]
  split
  · exact distinct
  · next absent =>
      exact List.nodup_append_comm.mp (List.nodup_cons.mpr ⟨absent, distinct⟩)

/-- A member that is written only where there is a value. -/
@[simp] theorem lookup?_optional (value : Option α) (write : α → Json) :
    lookup? (value.map fun value => (name, write value)).toList other =
      if name = other then value.map write else none := by
  cases value with
  | none => simp [lookup?]
  | some value => exact lookup?_cons

theorem height_lt_of_mem_array {items : List Json} {item : Json} (member : item ∈ items) :
    item.height < (Json.array items).height := by
  rw [height, Nat.lt_succ_iff]
  induction items with
  | nil => cases member
  | cons first rest ih =>
      rw [heightOfItems]
      rcases List.mem_cons.mp member with rfl | inRest
      · exact Nat.le_max_left _ _
      · exact Nat.le_trans (ih inRest) (Nat.le_max_right _ _)

theorem height_lt_of_mem_object (member : (name, value) ∈ members) :
    value.height < (Json.object members).height := by
  rw [height, Nat.lt_succ_iff]
  induction members with
  | nil => cases member
  | cons first rest ih =>
      obtain ⟨firstName, first⟩ := first
      rw [heightOfMembers]
      rcases List.mem_cons.mp member with same | inRest
      · cases same
        exact Nat.le_max_left _ _
      · exact Nat.le_trans (ih inRest) (Nat.le_max_right _ _)

theorem heightOfMembers_lt_iff {depth : Nat} :
    heightOfMembers members < depth ↔ 0 < depth ∧ ∀ member ∈ members, member.2.height < depth := by
  induction members with
  | nil => simp [heightOfMembers]
  | cons first rest ih =>
      rw [heightOfMembers, Nat.max_lt, ih, List.forall_mem_cons]
      exact and_left_comm

/-- A member that is written only where the value is not empty. -/
@[simp] theorem lookup?_ite {isEmpty : Prop} [Decidable isEmpty] :
    lookup? (if isEmpty then [] else [(name, value)]) other =
      if name = other ∧ ¬ isEmpty then some value else none := by
  by_cases empty : isEmpty
  · simp [empty, lookup?]
  · simp [empty, lookup?]

end Json

/-- Values that a reader takes back from what a writer makes of them are taken back in a list. -/
theorem mapM_map_eq_some {read : β → Option α} {write : α → β} {values : List α}
    (back : ∀ value ∈ values, read (write value) = some value) :
    (values.map write).mapM read = some values := by
  induction values with
  | nil => rfl
  | cons value rest ih =>
      obtain ⟨first, others⟩ := List.forall_mem_cons.mp back
      rw [List.map_cons, List.mapM_cons, first, ih others]
      rfl

theorem exists_of_mapM_eq_some {read : β → Option α} {items : List β} {values : List α}
    (all : items.mapM read = some values) {value : α} (member : value ∈ values) :
    ∃ item ∈ items, read item = some value := by
  induction items generalizing values with
  | nil =>
      cases all
      cases member
  | cons item rest ih =>
      rw [List.mapM_cons] at all
      obtain ⟨first, firstRead, all⟩ := Option.bind_eq_some_iff.mp all
      obtain ⟨others, othersRead, all⟩ := Option.bind_eq_some_iff.mp all
      cases all
      rcases List.mem_cons.mp member with rfl | inRest
      · exact ⟨item, List.mem_cons_self, firstRead⟩
      · obtain ⟨found, listed, foundRead⟩ := ih othersRead inRest
        exact ⟨found, List.mem_cons_of_mem _ listed, foundRead⟩

namespace Source

/-- Members as a source has them. -/
def ofMembers (members : List (String × Json)) : List (String × Source) :=
  members.map fun member => (member.1, .json member.2)

variable {fields : List String} {closed : Bool} {source : Source} {members : List (String × Json)}
  {field name : String}

@[simp] theorem names_ofMembers : (ofMembers members).map (·.1) = members.map (·.1) := by
  rw [ofMembers, List.map_map]
  rfl

theorem record?_of_members? {listed : List (String × Source)} (found : source.members? = some listed)
    (known : ∀ member ∈ listed, member.1 ∈ fields) (once : (listed.map (·.1)).Nodup) :
    source.record? fields closed = some listed := by
  have allKnown : listed.filter (fun member => fields.contains member.1) = listed :=
    List.filter_eq_self.mpr fun member isListed => List.contains_iff_mem.mpr (known member isListed)
  have noneTwice : (fields.any fun field => 1 < listed.countP (·.1 == field)) = false := by
    refine List.any_eq_false.mpr fun field _ => ?_
    have counted := List.nodup_iff_count_le_one.mp once field
    rw [List.count, List.countP_map] at counted
    have atMostOnce : listed.countP (·.1 == field) ≤ 1 := counted
    simpa using atMostOnce
  rw [record?]
  · simp only [found, Option.bind_eq_bind, Option.bind_some, allKnown, noneTwice, bne_self_eq_false,
      Bool.and_false, Bool.or_self, Bool.false_eq_true, if_false]
  · rintro items rfl
    cases found

/-- Members of some of the fields, each once and in their order. -/
theorem record?_ofMembers (found : source.members? = some (ofMembers members))
    (named : (members.map (·.1)).Sublist fields) (distinct : fields.Nodup) :
    source.record? fields closed = some (ofMembers members) := by
  rw [← names_ofMembers] at named
  exact record?_of_members? found (fun _ listed => named.subset (List.mem_map_of_mem listed))
    (named.nodup distinct)

theorem find?_ofMembers : (ofMembers members).find? (·.1 == name) =
    (Json.lookup? members name).map fun value => (name, .json value) := by
  rw [ofMembers, List.find?_map, Json.lookup?, Option.map_map]
  refine Option.map_congr fun member found => ?_
  have named : member.1 = name := by simpa using List.find?_some found
  rw [Function.comp, named]

@[simp] theorem required?_ofMembers (read : Source → Option α) :
    required? (ofMembers members) field read =
      (Json.lookup? members field).bind fun value => read (.json value) := by
  rw [required?, find?_ofMembers]
  cases Json.lookup? members field <;> rfl

@[simp] theorem withDefault?_ofMembers (read : Source → Option α) (default : α) :
    withDefault? (ofMembers members) field read default =
      match Json.lookup? members field with
      | some value => read (.json value)
      | none => some default := by
  rw [withDefault?, find?_ofMembers]
  cases Json.lookup? members field <;> rfl

/-- A field that is written only where there is a value. -/
theorem withDefault?_optional (write : α → Json) {value : Option α} {read : Source → Option (Option α)}
    (written : Json.lookup? members field = value.map write)
    (back : ∀ kept ∈ value, read (.json (write kept)) = some (some kept)) :
    withDefault? (ofMembers members) field read none = some value := by
  rw [withDefault?_ofMembers, written]
  cases value with
  | none => rfl
  | some kept => exact back kept rfl

/-- A field that is written only where there are any values. -/
theorem withDefault?_unlessEmpty (write : List α → Json) {values : List α}
    {read : Source → Option (List α)}
    (written : Json.lookup? members field = if values = [] then none else some (write values))
    (back : read (.json (write values)) = some values) :
    withDefault? (ofMembers members) field read [] = some values := by
  rw [withDefault?_ofMembers, written]
  cases values with
  | nil => rfl
  | cons first rest => exact back

theorem default_or_read {record : List (String × Source)} {read : Source → Option α} {default value : α}
    (given : withDefault? record field read default = some value) :
    value = default ∨ ∃ source, read source = some value := by
  rw [withDefault?] at given
  split at given
  · exact .inr ⟨_, given⟩
  · exact .inl (Option.some.inj given).symm

theorem exists_of_mem_withDefault? {record : List (String × Source)} {read : Source → Option α}
    {kept? : Option α} (given : withDefault? record field (optional? read) none = some kept?) {kept : α}
    (isKept : kept ∈ kept?) : ∃ source, read source = some kept := by
  cases isKept
  rcases default_or_read given with same | ⟨source, taken⟩
  · cases same
  · rw [optional?] at taken
    split at taken
    · cases taken
    · obtain ⟨value, valueRead, same⟩ := Option.map_eq_some_iff.mp taken
      cases same
      exact ⟨source, valueRead⟩

theorem settleEntries_ofMembers {done : List (String × Json)}
    (distinct : ((done ++ members).map (·.1)).Nodup) :
    settleEntries done (ofMembers members) = done ++ members := by
  induction members generalizing done with
  | nil => exact (List.append_nil done).symm
  | cons member rest ih =>
      have absent : member.1 ∉ done.map (·.1) := not_mem_map_of_nodup_append distinct
      rw [List.append_cons] at distinct
      rw [ofMembers, List.map_cons, settleEntries, settle, Json.putMember_of_absent absent, ← ofMembers,
        ih distinct, ← List.append_cons]

theorem nodup_settleEntries {done : List (String × Json)} {entries : List (String × Source)}
    (distinct : (done.map (·.1)).Nodup) : ((settleEntries done entries).map (·.1)).Nodup := by
  induction entries generalizing done with
  | nil => exact distinct
  | cons entry rest ih => exact ih (Json.nodup_putMember distinct)

theorem mem_names_settleEntries {done : List (String × Json)} {entries : List (String × Source)}
    (settled : name ∈ (settleEntries done entries).map (·.1)) :
    name ∈ done.map (·.1) ∨ name ∈ entries.map (·.1) := by
  induction entries generalizing done with
  | nil => exact .inl settled
  | cons entry rest ih =>
      rw [List.map_cons, List.mem_cons]
      rcases ih settled with put | inRest
      · rw [Json.names_putMember] at put
        split at put
        · exact .inl put
        · simp only [List.mem_append, List.mem_singleton] at put
          rcases put with inDone | same
          · exact .inl inDone
          · exact .inr (.inl same)
      · exact .inr (.inr inRest)

theorem strings?_ofStrings (values : List String) :
    strings? (.json (.ofStrings values)) = some values := by
  have each : ∀ value ∈ values, string? (.json (.string value)) = some value := fun _ _ => rfl
  rw [strings?, listOf?, Json.ofStrings, items?, Option.bind_some, List.map_map]
  exact mapM_map_eq_some each

end Source

end ThreatModel
