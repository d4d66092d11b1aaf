import Mathlib.Data.List.Basic

/-!
The first element of a list that has a property, as what `find?` finds: the element has the property, and
none that stands before it does.
-/

namespace ThreatModel

variable {α : Type u} {wanted fewer : α → Prop} {items : List α} {item other first : α}

/-- The item is the first one that is wanted. -/
structure FirstWhere (wanted : α → Prop) (items : List α) (item : α) : Prop where
  holds : wanted item
  noneBefore : ∃ before after, items = before ++ item :: after ∧ ∀ earlier ∈ before, ¬ wanted earlier

/-- Of equal items the first is kept, so another one at the end is kept where there is none before. -/
theorem eraseDups_concat [BEq α] [LawfulBEq α] (items : List α) (item : α) [Decidable (item ∈ items)] :
    (items ++ [item]).eraseDups = if item ∈ items then items.eraseDups else items.eraseDups ++ [item] := by
  rw [List.eraseDups_append]
  split
  · next present =>
      have nothing : [item].removeAll items = [] := by simp [List.removeAll, present]
      rw [nothing, List.eraseDups_nil, List.append_nil]
  · next absent =>
      have added : [item].removeAll items = [item] := by simp [List.removeAll, absent]
      rw [added]
      rfl

namespace FirstWhere

theorem find?_eq_some_iff {test : α → Bool} (tests : ∀ item, test item = true ↔ wanted item) :
    items.find? test = some item ↔ FirstWhere wanted items item := by
  have fails : ∀ item, (!test item) = true ↔ ¬ wanted item := by
    intro item
    rw [Bool.not_eq_true', ← Bool.not_eq_true, tests]
  simp only [List.find?_eq_some_iff_append, tests, fails]
  exact ⟨fun ⟨holds, noneBefore⟩ => ⟨holds, noneBefore⟩,
    fun isFirst => ⟨isFirst.holds, isFirst.noneBefore⟩⟩

theorem mem (isFirst : FirstWhere wanted items item) : item ∈ items := by
  obtain ⟨before, after, rfl, _⟩ := isFirst.noneBefore
  exact List.mem_append_right _ List.mem_cons_self

theorem exists_of_mem (member : item ∈ items) (holds : wanted item) :
    ∃ first, FirstWhere wanted items first := by
  classical
  have found : (items.find? fun item => decide (wanted item)).isSome :=
    List.find?_isSome.mpr ⟨item, member, decide_eq_true holds⟩
  obtain ⟨first, isFirst⟩ := Option.isSome_iff_exists.mp found
  exact ⟨first, (find?_eq_some_iff fun _ => decide_eq_true_iff).mp isFirst⟩

theorem unique (isFirst : FirstWhere wanted items item) (otherFirst : FirstWhere wanted items other) :
    item = other := by
  classical
  have finds : ∀ found, items.find? (fun item => decide (wanted item)) = some found ↔
      FirstWhere wanted items found := fun _ => find?_eq_some_iff fun _ => decide_eq_true_iff
  exact Option.some.inj (((finds item).mpr isFirst).symm.trans ((finds other).mpr otherFirst))

theorem of_imp (isFirst : FirstWhere wanted items item) (imp : ∀ item, fewer item → wanted item)
    (holds : fewer item) : FirstWhere fewer items item := by
  obtain ⟨before, after, order, noneBefore⟩ := isFirst.noneBefore
  refine ⟨holds, before, after, order, fun earlier member early => ?_⟩
  exact noneBefore earlier member (imp earlier early)

theorem append (isFirst : FirstWhere wanted items item) (more : List α) :
    FirstWhere wanted (items ++ more) item := by
  obtain ⟨before, after, rfl, noneBefore⟩ := isFirst.noneBefore
  refine ⟨isFirst.holds, before, after ++ more, ?_, noneBefore⟩
  rw [List.append_assoc, List.cons_append]

theorem eq_of_cons (isFirst : FirstWhere wanted (item :: items) first) (holds : wanted item) :
    first = item :=
  isFirst.unique ⟨holds, [], items, rfl, by simp⟩

end FirstWhere

end ThreatModel
