import ThreatModel.Proofs.Reference.NormalForm

/-!
Normal forms are fixed. The runs of capital letters land on letters that no run moves, and the two letters
that lower-casing treats by themselves become letters of that kind too. So a text in lower case stays as it
is wherever it stands, and the normal form of a normal form is the same text.
-/

namespace ThreatModel

namespace Unicode

/-- No letter that `run` moves lands on one that `other` moves: the intervals lie apart, or they interlace,
one with the odd letters and one with the even. -/
def ShiftRun.landsBeside (run other : ShiftRun) : Bool :=
  let up := run.shift.toNat
  let down := (-run.shift).toNat
  Nat.blt (run.last + up) (other.first + down) || Nat.blt (other.last + down) (run.first + up) ||
    ((run.step == 2 || run.first == run.last) && other.step == 2 &&
      (run.first + up + other.first + down) % 2 == 1)

theorem ShiftRun.not_moves_of_landsBeside {run other : ShiftRun} {point : Nat}
    (beside : run.landsBeside other) (positive : 0 < other.first) (moved : run.moves point) :
    other.moves (point + run.shift).toNat = false := by
  rw [← Bool.not_eq_true]
  intro again
  simp only [ShiftRun.moves, Bool.and_eq_true, decide_eq_true_eq, beq_iff_eq] at moved again
  obtain ⟨⟨above, below⟩, inStep⟩ := moved
  obtain ⟨⟨landsAbove, landsBelow⟩, landsInStep⟩ := again
  simp only [landsBeside, Bool.or_eq_true, Bool.and_eq_true, Nat.blt_eq, beq_iff_eq] at beside
  rcases beside with (before | behind) | ⟨⟨stepOrOne, everySecond⟩, odd⟩
  · omega
  · omega
  · rw [everySecond] at landsInStep
    rcases stepOrOne with step | one
    · rw [step] at inStep
      omega
    · omega

theorem lowercaseRuns_land_beside :
    lowercaseRuns.all fun run => lowercaseRuns.all run.landsBeside := by
  decide +kernel

/-- No run of capital letters moves the letter. -/
def Settled (c : Char) : Prop :=
  ∀ run ∈ lowercaseRuns, run.moves c.toNat = false

instance (c : Char) : Decidable (Settled c) :=
  inferInstanceAs (Decidable (∀ run ∈ lowercaseRuns, run.moves c.toNat = false))

theorem Settled.simpleLower_eq {c : Char} (settled : Settled c) : simpleLower c = c := by
  have unmoved : lowercaseRuns.find? (·.moves c.toNat) = none := by
    rw [List.find?_eq_none]
    intro run listed
    rw [settled run listed]
    exact Bool.false_ne_true
  rw [simpleLower, shiftPoint, unmoved, Char.ofNat_toNat]

theorem settled_simpleLower (c : Char) : Settled (simpleLower c) := by
  have positive : ∀ run ∈ lowercaseRuns, 0 < run.first := by decide +kernel
  intro other listed
  rw [simpleLower, shiftPoint]
  split
  · next run found =>
      rcases toNat_ofNat_eq_or (c.toNat + run.shift).toNat with landed | invalid
      · rw [landed]
        have besideAll := List.all_eq_true.mp lowercaseRuns_land_beside run (List.mem_of_find?_eq_some found)
        have beside := List.all_eq_true.mp besideAll other listed
        have moved : run.moves c.toNat := by simpa using List.find?_some found
        exact ShiftRun.not_moves_of_landsBeside beside (positive other listed) moved
      · rw [invalid, ShiftRun.moves, decide_eq_false (Nat.not_le_of_gt (positive other listed))]
        rfl
  · next unmoved =>
      rw [Char.ofNat_toNat]
      exact Bool.eq_false_iff.mpr (List.find?_eq_none.mp unmoved other listed)

theorem settled_of_mem_lowerIn {before after : List Char} {c lower : Char}
    (member : lower ∈ lowerIn before c after) : Settled lower := by
  unfold lowerIn at member
  split at member
  · split at member
    · rw [List.mem_singleton.mp member]
      decide +kernel
    · rw [List.mem_singleton.mp member]
      decide +kernel
  · split at member
    · rcases List.mem_pair.mp member with rfl | rfl
      · decide +kernel
      · decide +kernel
    · rw [List.mem_singleton.mp member]
      exact settled_simpleLower c

theorem Settled.lowerIn_eq {c : Char} (settled : Settled c) (before after : List Char) :
    lowerIn before c after = [c] := by
  have notSigma : c ≠ 'Σ' := by
    rintro rfl
    revert settled
    decide +kernel
  have notDotted : c ≠ 'İ' := by
    rintro rfl
    revert settled
    decide +kernel
  rw [lowerIn, if_neg notSigma, if_neg notDotted, settled.simpleLower_eq]

theorem settled_of_mem_lowerAfter {before chars : List Char} {lower : Char}
    (member : lower ∈ lowerAfter before chars) : Settled lower := by
  induction chars generalizing before with
  | nil => cases member
  | cons c rest ih =>
      rw [lowerAfter] at member
      rcases List.mem_append.mp member with atFirst | inRest
      · exact settled_of_mem_lowerIn atFirst
      · exact ih inRest

theorem lowerAfter_of_settled {chars : List Char} (settled : ∀ c ∈ chars, Settled c)
    (before : List Char) : lowerAfter before chars = chars := by
  induction chars generalizing before with
  | nil => rfl
  | cons c rest ih =>
      obtain ⟨first, others⟩ := List.forall_mem_cons.mp settled
      rw [lowerAfter, first.lowerIn_eq, ih others]
      rfl

theorem lowercase_lowercase (text : String) : lowercase (lowercase text) = lowercase text := by
  have settled : ∀ c ∈ (lowercase text).toList, Settled c := by
    intro c member
    rw [toList_lowercase] at member
    exact settled_of_mem_lowerAfter member
  rw [← String.toList_inj, toList_lowercase (lowercase text), lowerAfter_of_settled settled]

theorem Trimmed.trim_eq {text : String} (trimmed : Trimmed text.toList) : trim text = text := by
  rw [← String.toList_inj, toList_trim, trimmed.trimChars_eq]

end Unicode

/-- The normal form of a text is its own normal form, and no white space stands at either end of it. -/
theorem normalise_canonical (text : String) :
    normalise (normalise text) = normalise text ∧ Unicode.Trimmed (normalise text).toList ∧
      Unicode.trim (normalise text) = normalise text := by
  have trimmed := trimmed_normalise text
  refine ⟨?_, trimmed, trimmed.trim_eq⟩
  rw [normalise, trimmed.trim_eq]
  exact Unicode.lowercase_lowercase (Unicode.trim text)

end ThreatModel
