/-!
Finite maps from names to values. The entries stand in increasing order of name, so two maps with
the same entries are equal and printing them needs no order of its own.
-/

namespace ThreatModel

/-- Put a value under a name into entries that increase by name. -/
def putSorted (name : String) (value : α) : List (String × α) → List (String × α)
  | [] => [(name, value)]
  | (other, kept) :: rest =>
      if name < other then (name, value) :: (other, kept) :: rest
      else if name = other then (name, value) :: rest
      else (other, kept) :: putSorted name value rest

theorem mem_putSorted {name : String} {value : α} {entries : List (String × α)}
    {entry : String × α} (member : entry ∈ putSorted name value entries) :
    entry = (name, value) ∨ entry ∈ entries := by
  induction entries with
  | nil => simpa [putSorted] using member
  | cons first rest inductionHypothesis =>
      obtain ⟨other, kept⟩ := first
      simp only [putSorted] at member
      split at member
      · simpa using member
      · split at member
        · rcases List.mem_cons.mp member with same | inRest
          · exact .inl same
          · exact .inr (List.mem_cons_of_mem _ inRest)
        · rcases List.mem_cons.mp member with same | inRest
          · exact .inr (by simp [same])
          · rcases inductionHypothesis inRest with same | kept
            · exact .inl same
            · exact .inr (List.mem_cons_of_mem _ kept)

theorem putSorted_sorted {name : String} {value : α} {entries : List (String × α)}
    (sorted : entries.Pairwise fun left right => left.1 < right.1) :
    (putSorted name value entries).Pairwise fun left right => left.1 < right.1 := by
  induction entries with
  | nil => simp [putSorted]
  | cons first rest inductionHypothesis =>
      obtain ⟨other, kept⟩ := first
      obtain ⟨below, restSorted⟩ := List.pairwise_cons.mp sorted
      simp only [putSorted]
      split
      · next before =>
          refine List.pairwise_cons.mpr ⟨?_, sorted⟩
          intro entry member
          rcases List.mem_cons.mp member with same | inRest
          · simpa [same] using before
          · exact String.lt_trans before (below entry inRest)
      · next notBefore =>
          split
          · next same =>
              subst same
              exact List.pairwise_cons.mpr ⟨below, restSorted⟩
          · next different =>
              refine List.pairwise_cons.mpr ⟨?_, inductionHypothesis restSorted⟩
              intro entry member
              rcases mem_putSorted member with same | inRest
              · subst same
                rcases Std.lt_trichotomy other name with after | same | before
                · exact after
                · exact absurd same.symm different
                · exact absurd before notBefore
              · exact below entry inRest

/-- A finite map from names to values. -/
structure Properties (α : Type) where
  entries : List (String × α)
  sorted : entries.Pairwise fun left right => left.1 < right.1

namespace Properties

instance [DecidableEq α] : DecidableEq (Properties α) := fun left right =>
  if same : left.entries = right.entries then
    isTrue (by cases left; cases right; simp_all)
  else isFalse (by intro equal; exact same (congrArg entries equal))

def empty : Properties α := ⟨[], .nil⟩

instance : Inhabited (Properties α) := ⟨empty⟩

def isEmpty (properties : Properties α) : Bool := properties.entries.isEmpty

/-- The value under a name. -/
def get? (properties : Properties α) (name : String) : Option α :=
  (properties.entries.find? (·.1 == name)).map (·.2)

/-- Put a value under a name, in place of an earlier one. -/
def put (properties : Properties α) (name : String) (value : α) : Properties α :=
  ⟨putSorted name value properties.entries, putSorted_sorted properties.sorted⟩

/-- Put all entries, in order. -/
def putAll (properties : Properties α) (entries : List (String × α)) : Properties α :=
  entries.foldl (fun done entry => done.put entry.1 entry.2) properties

/-- The map of a list of entries; later ones win. -/
def ofList (entries : List (String × α)) : Properties α :=
  empty.putAll entries

def names (properties : Properties α) : List String :=
  properties.entries.map (·.1)

theorem ext_entries {left right : Properties α} (same : left.entries = right.entries) :
    left = right := by
  cases left; cases right; simp_all

end Properties

end ThreatModel
