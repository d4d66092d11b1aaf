import Mathlib.Data.List.Induction
import Mathlib.Data.List.Nodup
import ThreatModel.Document.Node
import ThreatModel.Proofs.FirstWhere

/-!
Mappings built by inserting entries one after the other. The names stand in the order in which they came
first. A name has the key that it came with first and the value that it came with last.
-/

namespace ThreatModel

namespace Mapping

variable {entries added : List (Key × Node)} {entry : Key × Node} {key : Key} {value : Node} {name : String}

theorem keys_insert (entries : Mapping) (key : Key) (value : Node) :
    (insert entries key value).map (·.1) =
      if key.name ∈ names entries then entries.map (·.1) else entries.map (·.1) ++ [key] := by
  induction entries with
  | nil => rfl
  | cons first rest ih =>
      rw [insert, names, List.map_cons]
      by_cases same : first.1.name = key.name
      · rw [if_pos same, if_pos (List.mem_cons.mpr (.inl same.symm))]
        rfl
      · have inRest : key.name ∈ first.1.name :: names rest ↔ key.name ∈ names rest :=
          List.mem_cons.trans (or_iff_right (Ne.symm same))
        rw [if_neg same, List.map_cons, ih, ← names]
        simp only [inRest]
        split <;> rfl

theorem names_insert (entries : Mapping) (key : Key) (value : Node) :
    names (insert entries key value) =
      if key.name ∈ names entries then names entries else names entries ++ [key.name] := by
  have fromKeys : ∀ entries : Mapping, names entries = (entries.map (·.1)).map Key.name := fun entries =>
    List.map_map.symm
  rw [fromKeys, keys_insert]
  split
  · exact (fromKeys entries).symm
  · rw [List.map_append, ← fromKeys]
    rfl

theorem get?_cons (entry : Key × Node) (rest : Mapping) (name : String) :
    get? (entry :: rest) name = if entry.1.name = name then some entry.2 else get? rest name := by
  rw [get?, find?, List.find?_cons]
  by_cases same : entry.1.name = name
  · rw [if_pos same, beq_iff_eq.mpr same]
    rfl
  · rw [if_neg same, beq_false_of_ne same]
    rfl

theorem get?_insert (entries : Mapping) (key : Key) (value : Node) (name : String) :
    get? (insert entries key value) name = if key.name = name then some value else get? entries name := by
  induction entries with
  | nil => exact get?_cons (key, value) [] name
  | cons first rest ih =>
      rw [insert]
      by_cases same : first.1.name = key.name
      · rw [if_pos same, get?_cons, get?_cons, same]
        split <;> rfl
      · rw [if_neg same, get?_cons, get?_cons, ih]
        by_cases here : first.1.name = name
        · have other : ¬ key.name = name := fun there => same (here.trans there.symm)
          rw [if_pos here, if_pos here, if_neg other]
        · rw [if_neg here, if_neg here]

theorem mem_or_value_of_mem_insert (member : entry ∈ insert entries key value) :
    entry ∈ entries ∨ entry.2 = value := by
  induction entries with
  | nil =>
      rw [List.mem_singleton.mp member]
      exact .inr rfl
  | cons first rest ih =>
      rw [insert] at member
      split at member
      · rcases List.mem_cons.mp member with rfl | inRest
        · exact .inr rfl
        · exact .inl (List.mem_cons_of_mem _ inRest)
      · rcases List.mem_cons.mp member with rfl | inRest
        · exact .inl List.mem_cons_self
        · exact (ih inRest).imp_left (List.mem_cons_of_mem _)

theorem nodup_names_insert (distinct : (names entries).Nodup) : (names (insert entries key value)).Nodup := by
  rw [names_insert]
  split
  · exact distinct
  · next absent =>
      rw [← List.concat_eq_append]
      exact distinct.concat absent

theorem find?_eq_some_iff_mem (distinct : (names entries).Nodup) :
    find? entries name = some entry ↔ entry.1.name = name ∧ entry ∈ entries := by
  constructor
  · intro found
    exact ⟨by simpa using List.find?_some found, List.mem_of_find?_eq_some found⟩
  · rintro ⟨rfl, member⟩
    have present : (find? entries entry.1.name).isSome :=
      List.find?_isSome.mpr ⟨entry, member, beq_self_eq_true _⟩
    obtain ⟨found, isFound⟩ := Option.isSome_iff_exists.mp present
    have named : found.1.name = entry.1.name := by simpa using List.find?_some isFound
    rw [isFound, List.inj_on_of_nodup_map distinct (List.mem_of_find?_eq_some isFound) member named]

/-- Where names are distinct, the value that is found under a name is the one that it has. -/
theorem get?_eq_some_iff_mem (distinct : (names entries).Nodup) :
    get? entries name = some value ↔ ∃ key : Key, key.name = name ∧ (key, value) ∈ entries := by
  rw [get?, Option.map_eq_some_iff]
  simp only [find?_eq_some_iff_mem distinct]
  constructor
  · rintro ⟨⟨key, _⟩, ⟨named, member⟩, rfl⟩
    exact ⟨key, named, member⟩
  · rintro ⟨key, named, member⟩
    exact ⟨(key, value), ⟨named, member⟩, rfl⟩

theorem ofEntries_concat (added : List (Key × Node)) (entry : Key × Node) :
    ofEntries (added ++ [entry]) = insert (ofEntries added) entry.1 entry.2 :=
  List.foldl_append

theorem names_ofEntries (added : List (Key × Node)) :
    names (ofEntries added) = (names added).eraseDups := by
  -- From the end, as the last entry is inserted into what the others have come to.
  induction added using List.reverseRecOn with
  | nil => rfl
  | append_singleton before last ih =>
      have split : names (before ++ [last]) = names before ++ [last.1.name] := List.map_append
      rw [ofEntries_concat, names_insert, ih, split, eraseDups_concat]
      simp only [List.mem_eraseDups]

theorem nodup_names_ofEntries (added : List (Key × Node)) : (names (ofEntries added)).Nodup := by
  induction added using List.reverseRecOn with
  | nil => exact List.nodup_nil
  | append_singleton before last ih =>
      rw [ofEntries_concat]
      exact nodup_names_insert ih

theorem mem_keys_of_ofEntries (kept : key ∈ (ofEntries added).map (·.1)) : key ∈ added.map (·.1) := by
  induction added using List.reverseRecOn with
  | nil => cases kept
  | append_singleton before last ih =>
      rw [ofEntries_concat, keys_insert] at kept
      rw [List.map_append, List.mem_append]
      split at kept
      · exact .inl (ih kept)
      · exact (List.mem_append.mp kept).imp_left ih

/-- The value of a name is the last one that was inserted under it. -/
theorem get?_ofEntries (added : List (Key × Node)) (name : String) :
    get? (ofEntries added) name = get? added.reverse name := by
  induction added using List.reverseRecOn with
  | nil => rfl
  | append_singleton before last ih =>
      rw [ofEntries_concat, get?_insert, List.reverse_concat, get?_cons, ih]

theorem get?_eq_some_iff : get? entries name = some value ↔
    ∃ (place : Nat) (key : Key), entries[place]? = some (key, value) ∧ key.name = name ∧
      ∀ (earlier : Nat) (entry : Key × Node), earlier < place → entries[earlier]? = some entry →
        entry.1.name ≠ name := by
  rw [get?, Option.map_eq_some_iff]
  constructor
  · rintro ⟨⟨key, value⟩, found, rfl⟩
    obtain ⟨named, place, bound, here, noneBefore⟩ := List.find?_eq_some_iff_getElem.mp found
    refine ⟨place, key, List.getElem?_eq_some_iff.mpr ⟨bound, here⟩, by simpa using named, ?_⟩
    intro earlier entry before there
    obtain ⟨_, rfl⟩ := List.getElem?_eq_some_iff.mp there
    simpa using noneBefore earlier before
  · rintro ⟨place, key, here, named, noneBefore⟩
    obtain ⟨bound, here⟩ := List.getElem?_eq_some_iff.mp here
    refine ⟨(key, value), List.find?_eq_some_iff_getElem.mpr ⟨by simpa using named, place, bound, here, ?_⟩, rfl⟩
    intro earlier before
    simpa using noneBefore earlier _ before (List.getElem?_eq_getElem (Nat.lt_trans before bound))

theorem get?_reverse_eq_some_iff : get? added.reverse name = some value ↔
    ∃ (place : Nat) (key : Key), added[place]? = some (key, value) ∧ key.name = name ∧
      ∀ (later : Nat) (entry : Key × Node), place < later → added[later]? = some entry →
        entry.1.name ≠ name := by
  rw [get?_eq_some_iff]
  constructor
  · rintro ⟨place, key, here, named, noneBefore⟩
    have bound := (List.getElem?_eq_some_iff.mp here).1
    rw [List.length_reverse] at bound
    rw [List.getElem?_reverse bound] at here
    refine ⟨added.length - 1 - place, key, here, named, fun later entry behind there => ?_⟩
    have within := (List.getElem?_eq_some_iff.mp there).1
    refine noneBefore (added.length - 1 - later) entry (by omega) ?_
    rwa [List.getElem?_reverse (by omega), Nat.sub_sub_self (by omega)]
  · rintro ⟨place, key, here, named, noneLater⟩
    have bound := (List.getElem?_eq_some_iff.mp here).1
    refine ⟨added.length - 1 - place, key, ?_, named, fun earlier entry before there => ?_⟩
    · rwa [List.getElem?_reverse (by omega), Nat.sub_sub_self (by omega)]
    · rw [List.getElem?_reverse (by omega)] at there
      exact noneLater (added.length - 1 - earlier) entry (by omega) there

end Mapping

end ThreatModel
