import Mathlib.Data.List.Nodup
import ThreatModel.Wording

/-!
Slots of templates: names in braces, where values are put. A template is filled once if each slot gives way
to its value and nothing is put into values. Where names are distinct and without braces, at most one slot
begins at any character, so there is one such text, in whatever order the values are given.
-/

namespace ThreatModel.Wording

/-- How a name stands in a template. -/
def slot (name : String) : List Char := '\x7b' :: (name.toList ++ ['\x7d'])

/-- The names can be told apart as slots. -/
structure SlotNames (values : List (String × String)) : Prop where
  distinct : (values.map (·.1)).Nodup
  noOpening : ∀ entry ∈ values, '\x7b' ∉ entry.1.toList
  noClosing : ∀ entry ∈ values, '\x7d' ∉ entry.1.toList

/-- The template with the values in place of their slots. What comes of a value is the value. -/
inductive FilledOnce (values : List (String × String)) : List Char → List Char → Prop
  | done : FilledOnce values [] []
  | value {entry : String × String} {rest filled : List Char} (listed : entry ∈ values)
      (behind : FilledOnce values rest filled) :
      FilledOnce values (slot entry.1 ++ rest) (entry.2.toList ++ filled)
  | char {c : Char} {rest filled : List Char} (noSlot : ∀ entry ∈ values, ¬ slot entry.1 <+: c :: rest)
      (behind : FilledOnce values rest filled) : FilledOnce values (c :: rest) (c :: filled)

/-- Fill the slots after `skipped` characters that belong to the last one. -/
def fillOnceFrom (values : List (String × String)) : Nat → List Char → List Char
  | _, [] => []
  | skipped + 1, _ :: rest => fillOnceFrom values skipped rest
  | 0, c :: rest =>
      match values.find? fun entry => (slot entry.1).isPrefixOf (c :: rest) with
      | some entry => entry.2.toList ++ fillOnceFrom values ((slot entry.1).length - 1) rest
      | none => c :: fillOnceFrom values 0 rest

def fillOnce (values : List (String × String)) (text : List Char) : List Char :=
  fillOnceFrom values 0 text

variable {values order : List (String × String)} {entry : String × String} {name other : String}
  {text rest filled : List Char}

namespace SlotNames

theorem of_perm (names : SlotNames values) (permuted : order.Perm values) : SlotNames order where
  distinct := (permuted.map _).nodup_iff.mpr names.distinct
  noOpening entry listed := names.noOpening entry (permuted.mem_iff.mp listed)
  noClosing entry listed := names.noClosing entry (permuted.mem_iff.mp listed)

theorem of_sublist (names : SlotNames values) (sub : order.Sublist values) : SlotNames order where
  distinct := names.distinct.sublist (sub.map _)
  noOpening entry listed := names.noOpening entry (sub.subset listed)
  noClosing entry listed := names.noClosing entry (sub.subset listed)

end SlotNames

theorem name_eq_of_slots (left : '\x7d' ∉ name.toList) (right : '\x7d' ∉ other.toList)
    (slotLeft : slot name <+: text) (slotRight : slot other <+: text) : name = other := by
  obtain ⟨afterLeft, rfl⟩ := slotLeft
  obtain ⟨afterRight, same⟩ := slotRight
  have untilClosing (read : String) (after : List Char) (noClosing : '\x7d' ∉ read.toList) :
      (slot read ++ after).tail.takeWhile (· ≠ '\x7d') = read.toList := by
    have within : ∀ c ∈ read.toList, decide (c ≠ '\x7d') := fun c member =>
      decide_eq_true fun same => noClosing (same ▸ member)
    rw [slot, List.cons_append, List.tail_cons, List.append_assoc, List.takeWhile_append_of_pos within]
    exact List.append_nil _
  have names := congrArg (fun text => text.tail.takeWhile (· ≠ '\x7d')) same
  simp only [untilClosing _ _ left, untilClosing _ _ right] at names
  exact String.toList_inj.mp names.symm

theorem not_slot_of_ne {c : Char} (other : c ≠ '\x7b') : ¬ slot name <+: c :: rest := by
  rintro ⟨after, same⟩
  exact other (List.cons.inj same).1.symm

theorem fillOnceFrom_append (skipped : List Char) :
    fillOnceFrom values skipped.length (skipped ++ rest) = fillOnce values rest := by
  induction skipped with
  | nil => rfl
  | cons c skipped ih => exact ih

theorem find?_slot (names : SlotNames values) (listed : entry ∈ values) (rest : List Char) :
    (values.find? fun other => (slot other.1).isPrefixOf (slot entry.1 ++ rest)) = some entry := by
  cases first : values.find? fun other => (slot other.1).isPrefixOf (slot entry.1 ++ rest) with
  | none =>
      have noSlot := List.find?_eq_none.mp first entry listed
      exact (noSlot (List.isPrefixOf_iff_prefix.mpr (List.prefix_append _ _))).elim
  | some found =>
      have isListed := List.mem_of_find?_eq_some first
      have begins := List.find?_some first
      have sameName := name_eq_of_slots (names.noClosing found isListed) (names.noClosing entry listed)
        (List.isPrefixOf_iff_prefix.mp begins) (List.prefix_append _ _)
      rw [List.inj_on_of_nodup_map names.distinct isListed listed sameName]

theorem fillOnce_slot (names : SlotNames values) (listed : entry ∈ values) (rest : List Char) :
    fillOnce values (slot entry.1 ++ rest) = entry.2.toList ++ fillOnce values rest := by
  have found := find?_slot names listed rest
  have behind : (slot entry.1).length - 1 = (entry.1.toList ++ ['\x7d']).length := rfl
  rw [slot, List.cons_append] at found ⊢
  rw [fillOnce, fillOnceFrom, found]
  dsimp only
  rw [behind, fillOnceFrom_append]

theorem fillOnce_char {c : Char} (noSlot : ∀ entry ∈ values, ¬ slot entry.1 <+: c :: rest) :
    fillOnce values (c :: rest) = c :: fillOnce values rest := by
  have notFound : (values.find? fun entry => (slot entry.1).isPrefixOf (c :: rest)) = none := by
    simpa using noSlot
  rw [fillOnce, fillOnceFrom, notFound]
  rfl

/-- A text is read slot by slot, and character by character where no slot begins. -/
@[elab_as_elim]
theorem scanning (values : List (String × String)) {motive : List Char → Prop} (done : motive [])
    (value : ∀ entry ∈ values, ∀ rest, motive rest → motive (slot entry.1 ++ rest))
    (char : ∀ c rest, (∀ entry ∈ values, ¬ slot entry.1 <+: c :: rest) → motive rest → motive (c :: rest))
    (text : List Char) : motive text := by
  -- A slot is taken as a whole, so the induction is on the length of what is left.
  induction size : text.length using Nat.strongRecOn generalizing text with
  | ind length ih =>
      cases text with
      | nil => exact done
      | cons c rest =>
          by_cases begins : ∃ entry ∈ values, slot entry.1 <+: c :: rest
          · obtain ⟨entry, listed, behind, same⟩ := begins
            have shorter : behind.length < length := by
              rw [← size, ← same, List.length_append, slot, List.length_cons]
              omega
            rw [← same]
            exact value entry listed behind (ih behind.length shorter behind rfl)
          · have noSlot : ∀ entry ∈ values, ¬ slot entry.1 <+: c :: rest := fun entry listed isSlot =>
              begins ⟨entry, listed, isSlot⟩
            have shorter : rest.length < length := by
              rw [← size, List.length_cons]
              omega
            exact char c rest noSlot (ih rest.length shorter rest rfl)

theorem filledOnce_iff (names : SlotNames values) :
    FilledOnce values text filled ↔ fillOnce values text = filled := by
  constructor
  · intro isFilled
    induction isFilled with
    | done => rfl
    | value listed _ ih => rw [fillOnce_slot names listed, ih]
    | char noSlot _ ih => rw [fillOnce_char noSlot, ih]
  · rintro rfl
    induction text using scanning values with
    | done => exact .done
    | value entry listed rest ih =>
        rw [fillOnce_slot names listed]
        exact .value listed ih
    | char c rest noSlot ih =>
        rw [fillOnce_char noSlot]
        exact .char noSlot ih

theorem fillOnce_perm (names : SlotNames values) (permuted : order.Perm values) (text : List Char) :
    fillOnce order text = fillOnce values text := by
  induction text using scanning values with
  | done => rfl
  | value entry listed rest ih =>
      rw [fillOnce_slot names listed, fillOnce_slot (names.of_perm permuted) (permuted.mem_iff.mpr listed), ih]
  | char c rest noSlot ih =>
      have noneInOrder : ∀ entry ∈ order, ¬ slot entry.1 <+: c :: rest := fun entry listed =>
        noSlot entry (permuted.mem_iff.mp listed)
      rw [fillOnce_char noSlot, fillOnce_char noneInOrder, ih]

theorem substituteFrom_slot (skipped : Nat) (text : List Char) :
    Chars.substituteFrom (slot entry.1) entry.2.toList skipped text = fillOnceFrom [entry] skipped text := by
  induction text generalizing skipped with
  | nil => cases skipped <;> rfl
  | cons c rest ih =>
      cases skipped with
      | succ skipped => exact ih skipped
      | zero =>
          by_cases begins : (slot entry.1).isPrefixOf (c :: rest)
          · simp [Chars.substituteFrom, fillOnceFrom, begins, ih]
          · simp [Chars.substituteFrom, fillOnceFrom, begins, ih]

/-- To put in one value is to fill the template with it alone. -/
theorem toList_fill (template : String) (entry : String × String) :
    (fill template entry).toList = fillOnce [entry] template.toList := by
  have part : ("\x7b" ++ entry.1 ++ "\x7d").toList = slot entry.1 := by
    simp [slot]
  rw [fill, Chars.substitute, String.toList_ofList, part, substituteFrom_slot, fillOnce]

end ThreatModel.Wording
