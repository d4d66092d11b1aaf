import Mathlib.Data.List.Infix
import ThreatModel.Proofs.Properties
import ThreatModel.Proofs.Wording.Slots

/-!
Values that are read again. A message puts in one value after the other, so the names that follow are also
looked for in what was put in before. That goes unnoticed in every template and every order if no value can
take part in an occurrence of another name's slot; otherwise there is a template that shows it.
-/

namespace ThreatModel.Wording

/-- A part of a text can occur so that it takes in characters of the value, or passes over its place. -/
inductive Meets (value part : List Char) : Prop
  | holds (within : part <:+: value)
  | begins {start shared behind : List Char} (isValue : value = start ++ shared)
      (isPart : part = shared ++ behind) (some : shared ≠ [])
  | ends {before shared rest : List Char} (isPart : part = before ++ shared)
      (isValue : value = shared ++ rest) (some : shared ≠ [])
  | lies {before behind : List Char} (isPart : part = before ++ (value ++ behind)) (start : before ≠ [])
      (stop : behind ≠ [])

/-- No value meets the slot of another name, except for a slot that its own value writes again. -/
def Apart (values : List (String × String)) : Prop :=
  ∀ entry ∈ values, ∀ other ∈ values, other ≠ entry → other.2.toList ≠ slot other.1 →
    ¬ Meets entry.2.toList (slot other.1)

/-- The message of every kind that has a template is the template filled once, in whatever order the values
are given. -/
def FillsOnce (values : List (String × String)) : Prop :=
  ∀ (wording : Wording) (kind template : String), wording.get? kind = some template →
    ∃ once : String, FilledOnce values template.toList once.toList ∧
      ∀ order : List (String × String), order.Perm values → wording.message kind order = once

/-- The order of the values makes no difference to the message of any kind that has a template. -/
def IgnoresOrder (values : List (String × String)) : Prop :=
  ∀ (wording : Wording) (kind : String), (wording.get? kind).isSome →
    ∀ order : List (String × String), order.Perm values →
      wording.message kind order = wording.message kind values

variable {values order : List (String × String)} {entry other : String × String} {name : String}
  {value text rest part before after behind : List Char}

theorem message_of_template {wording : Wording} {kind template : String}
    (known : wording.get? kind = some template) (values : List (String × String)) :
    wording.message kind values = values.foldl fill template := by
  rw [message, known]

section Passing

/-! Characters that filling leaves as they are. -/

theorem fillOnce_nil (text : List Char) : fillOnce [] text = text := by
  induction text with
  | nil => rfl
  | cons c rest ih => rw [fillOnce_char (List.forall_mem_nil _), ih]

theorem fillOnce_append_of_noOpening (noOpening : '\x7b' ∉ part) (rest : List Char) :
    fillOnce values (part ++ rest) = part ++ fillOnce values rest := by
  induction part with
  | nil => rfl
  | cons c part ih =>
      rw [List.mem_cons, not_or] at noOpening
      have noSlot : ∀ entry ∈ values, ¬ slot entry.1 <+: c :: (part ++ rest) := fun _ _ =>
        not_slot_of_ne (Ne.symm noOpening.1)
      rw [List.cons_append, fillOnce_char noSlot, ih noOpening.2, List.cons_append]

theorem fillOnce_of_noOpening (noOpening : '\x7b' ∉ part) : fillOnce values part = part := by
  have whole := @fillOnce_append_of_noOpening values part noOpening []
  rw [List.append_nil] at whole
  exact whole.trans (List.append_nil part)

theorem fillOnce_unlisted (names : SlotNames values) (noOpening : '\x7b' ∉ name.toList)
    (noClosing : '\x7d' ∉ name.toList) (unlisted : ∀ other ∈ values, other.1 ≠ name) (rest : List Char) :
    fillOnce values (slot name ++ rest) = slot name ++ fillOnce values rest := by
  have noSlot : ∀ other ∈ values, ¬ slot other.1 <+: slot name ++ rest := fun other listed begins =>
    unlisted other listed
      (name_eq_of_slots (names.noClosing other listed) noClosing begins (List.prefix_append _ _))
  have inside : '\x7b' ∉ name.toList ++ ['\x7d'] := by simp [noOpening]
  rw [slot, List.cons_append] at noSlot ⊢
  rw [fillOnce_char noSlot, fillOnce_append_of_noOpening inside, List.cons_append]

theorem fillOnce_append_of_apart (apart : ∀ other ∈ values, ¬ Meets value (slot other.1))
    (rest : List Char) : fillOnce values (value ++ rest) = value ++ fillOnce values rest := by
  -- `behind` is what remains of the value, so the induction is on the ends of the value.
  have ending (before behind : List Char) (split : value = before ++ behind) :
      fillOnce values (behind ++ rest) = behind ++ fillOnce values rest := by
    induction behind generalizing before with
    | nil => rfl
    | cons c behind ih =>
        have noSlot : ∀ other ∈ values, ¬ slot other.1 <+: c :: (behind ++ rest) := by
          intro other listed isSlot
          rcases List.prefix_or_prefix_of_prefix isSlot (List.prefix_append (c :: behind) rest) with
            inside | ⟨beyond, same⟩
          · apply apart other listed
            exact .holds (split ▸ inside.isInfix.trans (List.suffix_append before (c :: behind)).isInfix)
          · exact apart other listed (.begins split same.symm (List.cons_ne_nil _ _))
        have next : value = before ++ [c] ++ behind := by rw [split, List.append_assoc]; rfl
        rw [List.cons_append, fillOnce_char noSlot, ih (before ++ [c]) next, List.cons_append]
  exact ending [] value rfl

end Passing

section Once

/-! Values that are apart from the slots that follow. -/

theorem SlotNames.singleton (names : SlotNames values) (listed : entry ∈ values) : SlotNames [entry] :=
  names.of_sublist (List.singleton_sublist.mpr listed)

/-- A part of which some characters stand before a filled text, and which does not meet the value put in,
goes on in the text as it was. -/
theorem prefix_of_prefix_fillOnce (names : SlotNames [entry]) (apart : ¬ Meets entry.2.toList part)
    (split : part = before ++ after) (start : before ≠ []) (goesOn : after <+: fillOnce [entry] text) :
    after <+: text := by
  induction text using scanning [entry] generalizing before after with
  | done => exact goesOn
  | value found listed rest ih =>
      obtain rfl := List.mem_singleton.mp listed
      rw [fillOnce_slot names listed] at goesOn
      by_cases stop : after = []
      · rw [stop]
        exact List.nil_prefix
      · refine (apart ?_).elim
        rcases List.prefix_or_prefix_of_prefix goesOn (List.prefix_append found.2.toList _) with
          ⟨beyond, same⟩ | ⟨behind, same⟩
        · exact .ends split same.symm stop
        · rw [← same] at split
          by_cases ended : behind = []
          · rw [ended, List.append_nil] at split same
            exact .ends split (List.append_nil _).symm (same ▸ stop)
          · exact .lies split start ended
  | char c rest noSlot ih =>
      rw [fillOnce_char noSlot] at goesOn
      cases after with
      | nil => exact List.nil_prefix
      | cons d after =>
          obtain ⟨rfl, inRest⟩ := List.cons_prefix_cons.mp goesOn
          have next : part = before ++ [d] ++ after := by rw [split, List.append_assoc]; rfl
          have started : before ++ [d] ≠ [] := by simp
          exact List.cons_prefix_cons.mpr ⟨rfl, ih next started inRest⟩

/-- To put in one value and then fill the others is to fill all at once. -/
theorem fillOnce_fillOnce (names : SlotNames (entry :: values))
    (apart : ∀ other ∈ values, ¬ Meets entry.2.toList (slot other.1)) (text : List Char) :
    fillOnce values (fillOnce [entry] text) = fillOnce (entry :: values) text := by
  have alone : SlotNames [entry] := names.singleton List.mem_cons_self
  have others : SlotNames values := names.of_sublist (List.sublist_cons_self entry values)
  have different : ∀ other ∈ values, entry.1 ≠ other.1 := fun other listed same =>
    (List.nodup_cons.mp names.distinct).1 (List.mem_map.mpr ⟨other, listed, same.symm⟩)
  induction text using scanning (entry :: values) with
  | done => rfl
  | value found listed rest ih =>
      rw [fillOnce_slot names listed, ← ih]
      rcases List.mem_cons.mp listed with rfl | isOther
      · rw [fillOnce_slot alone List.mem_cons_self, fillOnce_append_of_apart apart]
      · have unlisted : ∀ other ∈ [entry], other.1 ≠ found.1 := by
          simpa using different found isOther
        rw [fillOnce_unlisted alone (names.noOpening found listed) (names.noClosing found listed) unlisted,
          fillOnce_slot others isOther]
  | char c rest noSlot ih =>
      obtain ⟨notEntry, notOther⟩ := List.forall_mem_cons.mp noSlot
      have stillNone : ∀ other ∈ values, ¬ slot other.1 <+: c :: fillOnce [entry] rest := by
        intro other listed isSlot
        refine notOther other listed ?_
        have split : slot other.1 = ['\x7b'] ++ (other.1.toList ++ ['\x7d']) := rfl
        rw [slot, List.cons_prefix_cons] at isSlot ⊢
        exact ⟨isSlot.1, prefix_of_prefix_fillOnce alone (apart other listed) split (List.cons_ne_nil _ _)
          isSlot.2⟩
      rw [fillOnce_char (List.forall_mem_singleton.mpr notEntry), fillOnce_char stillNone,
        fillOnce_char noSlot, ih]

theorem toList_foldl_fill (names : SlotNames values)
    (apart : values.Pairwise fun entry other => ¬ Meets entry.2.toList (slot other.1)) (template : String) :
    (values.foldl fill template).toList = fillOnce values template.toList := by
  induction values generalizing template with
  | nil => exact (fillOnce_nil _).symm
  | cons entry rest ih =>
      obtain ⟨apartEntry, apartRest⟩ := List.pairwise_cons.mp apart
      rw [List.foldl_cons, ih (names.of_sublist (List.sublist_cons_self entry rest)) apartRest, toList_fill,
        fillOnce_fillOnce names apartEntry]

/-- The value is another text than the slot. -/
def changes (entry : String × String) : Bool := entry.2.toList != slot entry.1

theorem fillOnce_filter (names : SlotNames values) (text : List Char) :
    fillOnce (values.filter changes) text = fillOnce values text := by
  have fewer : SlotNames (values.filter changes) := names.of_sublist List.filter_sublist
  induction text using scanning values with
  | done => rfl
  | value entry listed rest ih =>
      rw [fillOnce_slot names listed, ← ih]
      by_cases changed : changes entry
      · exact fillOnce_slot fewer (List.mem_filter.mpr ⟨listed, changed⟩) rest
      · have unlisted : ∀ other ∈ values.filter changes, other.1 ≠ entry.1 := by
          intro other inFilter same
          obtain ⟨isOther, otherChanged⟩ := List.mem_filter.mp inFilter
          rw [List.inj_on_of_nodup_map names.distinct isOther listed same] at otherChanged
          exact changed otherChanged
        have kept : entry.2.toList = slot entry.1 := by simpa [changes] using changed
        rw [kept]
        exact fillOnce_unlisted fewer (names.noOpening entry listed) (names.noClosing entry listed) unlisted rest
  | char c rest noSlot ih =>
      have noneLeft : ∀ entry ∈ values.filter changes, ¬ slot entry.1 <+: c :: rest := fun entry listed =>
        noSlot entry (List.mem_filter.mp listed).1
      rw [fillOnce_char noSlot, fillOnce_char noneLeft, ih]

theorem fill_of_not_changes (names : SlotNames [entry]) (kept : ¬ changes entry) (template : String) :
    fill template entry = template := by
  have none : [entry].filter changes = [] := List.filter_cons_of_neg kept
  rw [← String.toList_inj, toList_fill, ← fillOnce_filter names, none, fillOnce_nil]

theorem foldl_fill_filter (names : SlotNames values) (template : String) :
    (values.filter changes).foldl fill template = values.foldl fill template := by
  induction values generalizing template with
  | nil => rfl
  | cons entry rest ih =>
      have alone : SlotNames [entry] := names.singleton List.mem_cons_self
      have others : SlotNames rest := names.of_sublist (List.sublist_cons_self entry rest)
      by_cases changed : changes entry
      · rw [List.filter_cons_of_pos changed, List.foldl_cons, List.foldl_cons, ih others]
      · rw [List.filter_cons_of_neg changed, List.foldl_cons, fill_of_not_changes alone changed, ih others]

theorem Apart.pairwise (names : SlotNames values) (apart : Apart values) :
    (values.filter changes).Pairwise fun entry other => ¬ Meets entry.2.toList (slot other.1) := by
  have different : (values.filter changes).Pairwise (· ≠ ·) :=
    names.distinct.of_map.sublist List.filter_sublist
  refine different.imp_of_mem fun inFilter otherInFilter apartFrom => ?_
  obtain ⟨listed, _⟩ := List.mem_filter.mp inFilter
  obtain ⟨otherListed, changed⟩ := List.mem_filter.mp otherInFilter
  exact apart _ listed _ otherListed apartFrom.symm (bne_iff_ne.mp changed)

theorem Apart.of_perm (apart : Apart values) (permuted : order.Perm values) : Apart order :=
  fun entry listed other otherListed =>
    apart entry (permuted.mem_iff.mp listed) other (permuted.mem_iff.mp otherListed)

theorem Apart.fillsOnce (apart : Apart values) (names : SlotNames values) : FillsOnce values := by
  intro wording kind template known
  refine ⟨.ofList (fillOnce values template.toList), ?_, fun order permuted => ?_⟩
  · rw [filledOnce_iff names, String.toList_ofList]
  · have namesOfOrder := names.of_perm permuted
    rw [message_of_template known, ← String.toList_inj, String.toList_ofList, ← foldl_fill_filter namesOfOrder,
      toList_foldl_fill (namesOfOrder.of_sublist List.filter_sublist)
        ((apart.of_perm permuted).pairwise namesOfOrder),
      fillOnce_filter namesOfOrder, fillOnce_perm names permuted]

theorem FillsOnce.ignoresOrder (fills : FillsOnce values) : IgnoresOrder values := by
  intro wording kind known order permuted
  obtain ⟨template, found⟩ := Option.isSome_iff_exists.mp known
  obtain ⟨once, _, same⟩ := fills wording kind template found
  rw [same order permuted, same values (List.Perm.refl values)]

end Once

section Rescanning

/-! A template in which a value that meets a slot is taken for a part of it. -/

/-- A slot that is not closed before the next opening brace is none. -/
theorem not_prefix_of_unclosed {read : List Char} (noOpening : '\x7b' ∉ read) (noClosing : '\x7d' ∉ part) :
    ¬ read ++ ['\x7d'] <+: part ++ '\x7b' :: rest := by
  induction part generalizing read with
  | nil =>
      cases read with
      | nil => simp
      | cons c read =>
          rw [List.mem_cons, not_or] at noOpening
          intro isPrefix
          exact noOpening.1 (List.cons_prefix_cons.mp isPrefix).1.symm
  | cons d part ih =>
      rw [List.mem_cons, not_or] at noClosing
      cases read with
      | nil => exact fun isPrefix => noClosing.1 (List.cons_prefix_cons.mp isPrefix).1
      | cons c read =>
          rw [List.mem_cons, not_or] at noOpening
          exact fun isPrefix => ih noOpening.2 noClosing.2 (List.cons_prefix_cons.mp isPrefix).2

/-- The beginning of a slot passes, if it is not the whole. -/
theorem fillOnce_append_of_slot_start (names : SlotNames values) (noOpening : '\x7b' ∉ name.toList)
    (noClosing : '\x7d' ∉ name.toList) {cut : List Char} (split : slot name = before ++ cut) (more : cut ≠ [])
    (rest : List Char) :
    fillOnce values (before ++ '\x7b' :: rest) = before ++ fillOnce values ('\x7b' :: rest) := by
  cases before with
  | nil => rfl
  | cons c part =>
      obtain rfl : '\x7b' = c := (List.cons.inj split).1
      have inside : name.toList ++ ['\x7d'] = part ++ cut := (List.cons.inj split).2
      have isName : name.toList = part ++ cut.dropLast := by
        rw [← List.dropLast_append_of_ne_nil more, ← inside, List.dropLast_concat]
      rw [isName, List.mem_append, not_or] at noOpening noClosing
      have noSlot : ∀ other ∈ values, ¬ slot other.1 <+: '\x7b' :: (part ++ '\x7b' :: rest) := by
        intro other listed isSlot
        have unclosed := (List.cons_prefix_cons.mp isSlot).2
        exact not_prefix_of_unclosed (names.noOpening other listed) noClosing.1 unclosed
      rw [List.cons_append, fillOnce_char noSlot, fillOnce_append_of_noOpening noOpening.1, List.cons_append]

theorem noOpening_of_slot_end {start : List Char} (noOpening : '\x7b' ∉ name.toList)
    (split : slot name = start ++ behind) (some : start ≠ []) : '\x7b' ∉ behind := by
  obtain ⟨c, start, rfl⟩ := List.exists_cons_of_ne_nil some
  have inside := (List.cons.inj split).2
  intro member
  have inSlot : '\x7b' ∈ name.toList ++ ['\x7d'] := inside ▸ List.mem_append_right start member
  simp [noOpening] at inSlot

/-- Around a value that meets a slot there can stand a part of the slot, so that the whole slot occurs. -/
theorem Meets.exists_around (meets : Meets value (slot name)) (noOpening : '\x7b' ∉ name.toList) :
    ∃ before cut behind, slot name = before ++ cut ∧ cut ≠ [] ∧ '\x7b' ∉ behind ∧
      slot name <:+: before ++ (value ++ behind) := by
  have whole : slot name ≠ [] := List.cons_ne_nil _ _
  cases meets with
  | holds within =>
      refine ⟨[], slot name, [], rfl, whole, List.not_mem_nil, ?_⟩
      rwa [List.nil_append, List.append_nil]
  | @begins start shared behind isValue isPart some =>
      refine ⟨[], slot name, behind, rfl, whole, noOpening_of_slot_end noOpening isPart some, ?_⟩
      rw [List.nil_append, isValue, List.append_assoc, ← isPart]
      exact (List.suffix_append start _).isInfix
  | @ends before shared rest isPart isValue some =>
      refine ⟨before, shared, [], isPart, some, List.not_mem_nil, ?_⟩
      rw [List.append_nil, isValue, ← List.append_assoc, ← isPart]
      exact (List.prefix_append _ rest).isInfix
  | @lies before behind isPart start stop =>
      have split : slot name = (before ++ value) ++ behind := by rw [isPart, List.append_assoc]
      refine ⟨before, value ++ behind, behind, isPart, ?_, ?_, ?_⟩
      · exact List.append_ne_nil_of_right_ne_nil _ stop
      · exact noOpening_of_slot_end noOpening split (List.append_ne_nil_of_left_ne_nil start _)
      · rw [← isPart]

theorem exists_length_fillOnce (names : SlotNames [entry]) (text : List Char) :
    ∃ count, (fillOnce [entry] text).length + count * (slot entry.1).length =
      text.length + count * entry.2.toList.length := by
  induction text using scanning [entry] with
  | done => exact ⟨0, by rw [Nat.zero_mul, Nat.zero_mul]; rfl⟩
  | value found listed rest ih =>
      obtain rfl := List.mem_singleton.mp listed
      obtain ⟨count, balance⟩ := ih
      refine ⟨count + 1, ?_⟩
      rw [fillOnce_slot names listed, List.length_append, List.length_append, Nat.succ_mul, Nat.succ_mul]
      omega
  | char c rest noSlot ih =>
      obtain ⟨count, balance⟩ := ih
      refine ⟨count, ?_⟩
      rw [fillOnce_char noSlot, List.length_cons, List.length_cons]
      omega

/-- A text with a slot in it changes, unless the value is the slot. -/
theorem value_eq_slot_of_unchanged (names : SlotNames [entry]) (occurs : slot entry.1 <:+: text)
    (same : fillOnce [entry] text = text) : entry.2.toList = slot entry.1 := by
  induction text using scanning [entry] with
  | done => exact absurd (List.infix_nil.mp occurs) (List.cons_ne_nil _ _)
  | value found listed rest ih =>
      obtain rfl := List.mem_singleton.mp listed
      rw [fillOnce_slot names listed] at same
      obtain ⟨count, balance⟩ := exists_length_fillOnce names rest
      have lengths := congrArg List.length same
      rw [List.length_append, List.length_append] at lengths
      have scaled : (count + 1) * found.2.toList.length = (count + 1) * (slot found.1).length := by
        rw [Nat.succ_mul, Nat.succ_mul]
        omega
      exact List.append_inj_left same (Nat.eq_of_mul_eq_mul_left (Nat.succ_pos count) scaled)
  | char c rest noSlot ih =>
      rw [fillOnce_char noSlot] at same
      rcases List.infix_cons_iff.mp occurs with begins | inRest
      · exact absurd begins (noSlot entry (List.mem_singleton_self entry))
      · exact ih inRest (List.cons.inj same).2

theorem exists_perm_append_pair (listed : entry ∈ values) (otherListed : other ∈ values)
    (different : other ≠ entry) : ∃ rest, (rest ++ [entry, other]).Perm values := by
  have inRest : other ∈ values.erase entry := (List.mem_erase_of_ne different).mpr otherListed
  have shifted : ((values.erase entry).erase other ++ [entry, other]).Perm
      (entry :: other :: (values.erase entry).erase other) := List.perm_append_comm
  have restored := ((List.perm_cons_erase inRest).symm.cons entry).trans (List.perm_cons_erase listed).symm
  exact ⟨_, shifted.trans restored⟩

theorem foldl_fill_of_fixed {template : String} (fixed : ∀ entry ∈ values, fill template entry = template) :
    values.foldl fill template = template := by
  induction values with
  | nil => rfl
  | cons entry rest ih =>
      obtain ⟨first, others⟩ := List.forall_mem_cons.mp fixed
      rw [List.foldl_cons, first, ih others]

/-- A template that only the value of one entry changes, and in which that value completes a slot. -/
theorem Meets.exists_template (meets : Meets entry.2.toList (slot name)) (noOpening : '\x7b' ∉ name.toList)
    (noClosing : '\x7d' ∉ name.toList) (names : SlotNames values) (listed : entry ∈ values) :
    ∃ template filled : String, slot name <:+: filled.toList ∧ fill template entry = filled ∧
      ∀ found ∈ values, found ≠ entry → fill template found = template := by
  obtain ⟨before, cut, behind, split, more, plain, occurs⟩ := meets.exists_around noOpening
  have started {found : String × String} (isFound : found ∈ values) :
      fillOnce [found] (before ++ (slot entry.1 ++ behind)) =
        before ++ fillOnce [found] (slot entry.1 ++ behind) :=
    fillOnce_append_of_slot_start (names.singleton isFound) noOpening noClosing split more _
  refine ⟨.ofList (before ++ (slot entry.1 ++ behind)), .ofList (before ++ (entry.2.toList ++ behind)), ?_, ?_,
    fun found isFound different => ?_⟩
  · rwa [String.toList_ofList]
  · rw [← String.toList_inj, toList_fill, String.toList_ofList, String.toList_ofList, started listed,
      fillOnce_slot (names.singleton listed) (List.mem_singleton_self entry), fillOnce_of_noOpening plain]
  · have unlisted : ∀ other ∈ [found], other.1 ≠ entry.1 := List.forall_mem_singleton.mpr fun same =>
      different (List.inj_on_of_nodup_map names.distinct isFound listed same)
    rw [← String.toList_inj, toList_fill, String.toList_ofList, started isFound,
      fillOnce_unlisted (names.singleton isFound) (names.noOpening entry listed) (names.noClosing entry listed)
        unlisted, fillOnce_of_noOpening plain]

theorem IgnoresOrder.apart (ignores : IgnoresOrder values) (names : SlotNames values) : Apart values := by
  intro entry listed other otherListed different changed meets
  obtain ⟨template, filled, occurs, fills, fixed⟩ := meets.exists_template
    (names.noOpening other otherListed) (names.noClosing other otherListed) names listed
  obtain ⟨rest, permuted⟩ := exists_perm_append_pair listed otherListed different
  have swapped : (rest ++ [other, entry]).Perm values :=
    ((List.Perm.swap entry other []).append_left rest).trans permuted
  have restFixed : rest.foldl fill template = template := by
    refine foldl_fill_of_fixed fun found inRest => fixed found ?_ ?_
    · exact permuted.mem_iff.mp (List.mem_append_left _ inRest)
    · have once := (names.of_perm permuted).distinct.of_map
      exact (List.nodup_append.mp once).2.2 found inRest entry List.mem_cons_self
  let wording := Wording.empty.insert "" template
  have known : wording.get? "" = some template := (Properties.get?_put ..).trans (if_pos rfl)
  have same : wording.message "" (rest ++ [entry, other]) = wording.message "" (rest ++ [other, entry]) := by
    have isKnown : (wording.get? "").isSome := Option.isSome_of_eq_some known
    rw [ignores wording "" isKnown _ permuted, ignores wording "" isKnown _ swapped]
  rw [message_of_template known, message_of_template known, List.foldl_append, List.foldl_append,
    restFixed] at same
  have unchanged : fill filled other = filled := by
    have otherFixed := fixed other otherListed different
    simpa [fills, otherFixed] using same
  rw [← String.toList_inj, toList_fill] at unchanged
  exact changed (value_eq_slot_of_unchanged (names.singleton otherListed) occurs unchanged)

/-- Messages of templates are the templates filled once if and only if no value meets the slot of another
name, and only then does the order of the values make no difference. -/
theorem filled_once_iff_apart (names : SlotNames values) :
    (FillsOnce values ↔ Apart values) ∧ (IgnoresOrder values ↔ Apart values) :=
  ⟨⟨fun fills => fills.ignoresOrder.apart names, fun apart => apart.fillsOnce names⟩,
    ⟨fun ignores => ignores.apart names, fun apart => (apart.fillsOnce names).ignoresOrder⟩⟩

end Rescanning

section Plain

/-- A value without braces meets a slot only as a part of its name. The empty value is a part of all. -/
theorem meets_slot_iff (noOpening : '\x7b' ∉ value) (noClosing : '\x7d' ∉ value) :
    Meets value (slot name) ↔ value <:+: name.toList := by
  constructor
  · intro meets
    cases meets with
    | holds within => exact absurd (within.subset List.mem_cons_self) noOpening
    | @begins start shared behind isValue isPart some =>
        obtain ⟨c, shared, rfl⟩ := List.exists_cons_of_ne_nil some
        obtain rfl : '\x7b' = c := (List.cons.inj isPart).1
        exact absurd (isValue ▸ List.mem_append_right start List.mem_cons_self) noOpening
    | @ends before shared rest isPart isValue some =>
        have isClosed : '\x7d' ∈ shared := by
          have ending : ['\x7d'] <:+ before ++ shared := isPart ▸ ⟨'\x7b' :: name.toList, rfl⟩
          have inShared := List.suffix_of_suffix_length_le ending (List.suffix_append before shared)
            (List.length_pos_iff.mpr some)
          exact inShared.subset List.mem_cons_self
        exact absurd (isValue ▸ List.mem_append_left rest isClosed) noClosing
    | @lies before behind isPart start stop =>
        obtain ⟨c, before, rfl⟩ := List.exists_cons_of_ne_nil start
        have inside : name.toList ++ ['\x7d'] = before ++ (value ++ behind) := (List.cons.inj isPart).2
        refine ⟨before, behind.dropLast, ?_⟩
        rw [List.append_assoc, ← List.dropLast_append_of_ne_nil stop,
          ← List.dropLast_append_of_ne_nil (List.append_ne_nil_of_right_ne_nil _ stop), ← inside,
          List.dropLast_concat]
  · rintro ⟨before, behind, isName⟩
    have around : slot name = ('\x7b' :: before) ++ (value ++ (behind ++ ['\x7d'])) := by
      rw [slot, ← isName]
      simp
    exact .lies around (List.cons_ne_nil _ _) (List.concat_ne_nil _ _)

theorem apart_iff_of_noBraces (noOpening : ∀ entry ∈ values, '\x7b' ∉ entry.2.toList)
    (noClosing : ∀ entry ∈ values, '\x7d' ∉ entry.2.toList) :
    Apart values ↔ ∀ entry ∈ values, ∀ other ∈ values, other ≠ entry →
      ¬ entry.2.toList <:+: other.1.toList := by
  refine forall₂_congr fun entry listed => forall₂_congr fun other otherListed => forall_congr' fun _ => ?_
  have changed : other.2.toList ≠ slot other.1 := fun same =>
    noOpening other otherListed (same ▸ List.mem_cons_self)
  rw [meets_slot_iff (noOpening entry listed) (noClosing entry listed)]
  exact ⟨fun apart => apart changed, fun apart _ => apart⟩

end Plain

theorem filled_once_of_plain :
    let values := [("field", "Storage"), ("value", "DB"), ("expected", "a date")]
    SlotNames values ∧ FillsOnce values ∧ IgnoresOrder values := by
  intro values
  have names : SlotNames values := ⟨by decide, by decide, by decide⟩
  have apart : Apart values := (apart_iff_of_noBraces (by decide) (by decide)).mpr (by decide)
  have iffs := filled_once_iff_apart names
  exact ⟨names, iffs.1.mpr apart, iffs.2.mpr apart⟩

/-- The text that the field puts in is taken for the slot of the value. -/
theorem value_filled_again :
    let values := [("field", "\x7bvalue\x7d"), ("value", "DB")]
    let template := "Value '\x7bvalue\x7d' of '\x7bfield\x7d' is not unique"
    SlotNames values ∧ builtin.get? "duplicate-value" = some template ∧
      FilledOnce values template.toList "Value 'DB' of '\x7bvalue\x7d' is not unique".toList ∧
      builtin.message "duplicate-value" values = "Value 'DB' of 'DB' is not unique" ∧
      builtin.message "duplicate-value" values.reverse = "Value 'DB' of '\x7bvalue\x7d' is not unique" := by
  intro values template
  have names : SlotNames values := ⟨by decide, by decide, by decide⟩
  have once : FilledOnce values template.toList "Value 'DB' of '\x7bvalue\x7d' is not unique".toList :=
    (filledOnce_iff names).mpr (by decide)
  exact ⟨names, by rfl, once, by decide, by decide⟩

end ThreatModel.Wording
