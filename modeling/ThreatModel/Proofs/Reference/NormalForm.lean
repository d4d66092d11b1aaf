import Mathlib.Data.List.DropRight
import ThreatModel.Reference.Basic

/-!
The normal form of texts. Taking the white space off both ends leaves none there, and lower-casing brings
none in, so a normal form neither begins nor ends with white space.
-/

namespace ThreatModel

namespace Unicode

section Trimming

variable {chars blanks : List Char}

/-- No white space at either end. -/
structure Trimmed (chars : List Char) : Prop where
  first : ∀ c ∈ chars.head?, isBlank c = false
  last : ∀ c ∈ chars.getLast?, isBlank c = false

theorem trimChars_eq_rdropWhile (chars : List Char) :
    trimChars chars = (chars.dropWhile isBlank).rdropWhile isBlank := rfl

theorem trimmed_trimChars (chars : List Char) : Trimmed (trimChars chars) := by
  rw [trimChars_eq_rdropWhile]
  constructor
  · intro c isFirst
    have firstDropped := List.head?_dropWhile_not isBlank chars
    obtain ⟨rest, split⟩ := List.head?_eq_some_iff.mp isFirst
    obtain ⟨more, whole⟩ := List.rdropWhile_prefix isBlank (l := chars.dropWhile isBlank)
    rw [← whole, split] at firstDropped
    simpa using firstDropped
  · intro c isLast
    obtain ⟨before, split⟩ := List.getLast?_eq_some_iff.mp isLast
    have again := List.rdropWhile_idempotent isBlank (chars.dropWhile isBlank)
    rw [split] at again
    by_contra blank
    rw [List.rdropWhile_concat_pos _ _ _ (by simpa using blank)] at again
    have longer := (List.rdropWhile_prefix isBlank (l := before)).length_le
    rw [again, List.length_append, List.length_singleton] at longer
    omega

theorem Trimmed.rdropWhile_eq (trimmed : Trimmed chars) : chars.rdropWhile isBlank = chars := by
  rw [List.rdropWhile_eq_self_iff]
  intro nonempty blank
  have filled := trimmed.last _ (List.getLast_mem_getLast? nonempty)
  rw [filled] at blank
  cases blank

theorem Trimmed.trimChars_eq (trimmed : Trimmed chars) : trimChars chars = chars := by
  have kept : chars.dropWhile isBlank = chars := by
    cases chars with
    | nil => rfl
    | cons c rest => rw [List.dropWhile_cons, trimmed.first c rfl]; rfl
  rw [trimChars_eq_rdropWhile, kept, trimmed.rdropWhile_eq]

theorem trimChars_eq_nil_iff {chars : List Char} : trimChars chars = [] ↔ chars.all isBlank := by
  rw [trimChars_eq_rdropWhile, List.rdropWhile_eq_nil_iff, List.all_eq_true]
  constructor
  · intro blank c member
    by_contra filled
    rw [← List.takeWhile_append_dropWhile (p := isBlank) (l := chars)] at member
    rcases List.mem_append.mp member with inFront | further
    · exact filled (List.mem_takeWhile_imp inFront)
    · exact filled (blank c further)
  · intro blank c member
    exact blank c ((List.dropWhile_suffix _).subset member)

theorem trimChars_append_of_blank (blank : ∀ c ∈ blanks, isBlank c) :
    trimChars (blanks ++ chars) = trimChars chars := by
  rw [trimChars, trimChars, List.dropWhile_append_of_pos blank]

theorem rdropWhile_append_of_blank (blank : ∀ c ∈ blanks, isBlank c) :
    (chars ++ blanks).rdropWhile isBlank = chars.rdropWhile isBlank := by
  induction blanks using List.reverseRecOn with
  | nil => rw [List.append_nil]
  | append_singleton before c ih =>
      rw [← List.append_assoc, List.rdropWhile_concat_pos _ _ _ (blank c (by simp))]
      exact ih fun other member => blank other (by simp [member])

/-- Trimming takes off white space and nothing else. -/
theorem exists_blanks_around (chars : List Char) :
    ∃ before after, chars = before ++ trimChars chars ++ after ∧ (∀ c ∈ before, isBlank c) ∧
      ∀ c ∈ after, isBlank c := by
  refine ⟨chars.takeWhile isBlank, (chars.dropWhile isBlank).rtakeWhile isBlank, ?_, ?_, ?_⟩
  · rw [trimChars_eq_rdropWhile, List.append_assoc, List.rdropWhile_append_rtakeWhile,
      List.takeWhile_append_dropWhile]
  · intro c member
    exact List.mem_takeWhile_imp member
  · intro c member
    exact List.mem_rtakeWhile_imp member

end Trimming

section Lowering

/-- The code points of white space. -/
def blankPoints : List Nat :=
  [0x09, 0x0a, 0x0b, 0x0c, 0x0d, 0x20, 0x85, 0xa0, 0x1680, 0x2000, 0x2001, 0x2002, 0x2003, 0x2004,
    0x2005, 0x2006, 0x2007, 0x2008, 0x2009, 0x200a, 0x2028, 0x2029, 0x202f, 0x205f, 0x3000]

theorem mem_blankPoints {c : Char} (blank : isBlank c) : c.toNat ∈ blankPoints := by
  simp only [isBlank, Bool.or_eq_true, Bool.and_eq_true, decide_eq_true_eq, beq_iff_eq] at blank
  simp only [blankPoints, List.mem_cons, List.not_mem_nil]
  omega

/-- No run of letters moves onto white space. -/
theorem lowercaseRuns_avoid_blanks : ∀ run ∈ lowercaseRuns, ∀ point ∈ blankPoints,
    (point : Int) < run.first + run.shift ∨ run.last + run.shift < (point : Int) := by
  decide +kernel

theorem toNat_ofNat_eq_or (point : Nat) :
    (Char.ofNat point).toNat = point ∨ (Char.ofNat point).toNat = 0 := by
  by_cases valid : point.isValidChar
  · rw [Char.ofNat, dif_pos valid]
    exact .inl rfl
  · rw [Char.ofNat, dif_neg valid]
    exact .inr rfl

theorem isBlank_simpleLower {c : Char} (filled : isBlank c = false) :
    isBlank (simpleLower c) = false := by
  rw [simpleLower, shiftPoint]
  split
  · next run found =>
      by_contra blank
      have onBlank := mem_blankPoints (Bool.not_eq_false _ ▸ blank)
      have positive : ∀ point ∈ blankPoints, 0 < point := by decide
      have aboveZero := positive _ onBlank
      rcases toNat_ofNat_eq_or (c.toNat + run.shift).toNat with moved | invalid
      · rw [moved] at onBlank aboveZero
        have avoided := lowercaseRuns_avoid_blanks run (List.mem_of_find?_eq_some found) _ onBlank
        have within := List.find?_some found
        simp only [ShiftRun.moves, Bool.and_eq_true, decide_eq_true_eq] at within
        omega
      · omega
  · rw [Char.ofNat_toNat]
    exact filled

theorem isBlank_of_mem_lowerIn {before after : List Char} {c lower : Char}
    (filled : isBlank c = false) (member : lower ∈ lowerIn before c after) :
    isBlank lower = false := by
  unfold lowerIn at member
  split at member
  · split at member
    · rw [List.mem_singleton.mp member]; rfl
    · rw [List.mem_singleton.mp member]; rfl
  · split at member
    · rcases List.mem_pair.mp member with rfl | rfl <;> rfl
    · rw [List.mem_singleton.mp member]
      exact isBlank_simpleLower filled

theorem lowerIn_ne_nil (before : List Char) (c : Char) (after : List Char) :
    lowerIn before c after ≠ [] := by
  unfold lowerIn
  repeat' split
  all_goals exact List.cons_ne_nil _ _

theorem lowerAfter_eq_nil_iff {before chars : List Char} :
    lowerAfter before chars = [] ↔ chars = [] := by
  cases chars with
  | nil => exact iff_of_true rfl rfl
  | cons c rest => simp [lowerAfter, lowerIn_ne_nil]

theorem isBlank_first_lowerAfter {before chars : List Char}
    (filled : ∀ c ∈ chars.head?, isBlank c = false) :
    ∀ c ∈ (lowerAfter before chars).head?, isBlank c = false := by
  cases chars with
  | nil => exact fun _ absent => nomatch absent
  | cons c rest =>
      intro lower isFirst
      rw [lowerAfter, List.head?_append_of_ne_nil _ (lowerIn_ne_nil before c rest)] at isFirst
      exact isBlank_of_mem_lowerIn (filled c rfl) (List.mem_of_mem_head? isFirst)

theorem isBlank_last_lowerAfter {before chars : List Char}
    (filled : ∀ c ∈ chars.getLast?, isBlank c = false) :
    ∀ c ∈ (lowerAfter before chars).getLast?, isBlank c = false := by
  induction chars generalizing before with
  | nil => exact fun _ absent => nomatch absent
  | cons c rest ih =>
      intro lower isLast
      rw [lowerAfter] at isLast
      cases rest with
      | nil =>
          rw [lowerAfter, List.append_nil] at isLast
          exact isBlank_of_mem_lowerIn (filled c rfl) (List.mem_of_mem_getLast? isLast)
      | cons second rest =>
          have more : lowerAfter (c :: before) (second :: rest) ≠ [] :=
            fun none => nomatch lowerAfter_eq_nil_iff.mp none
          rw [List.getLast?_append_of_ne_nil _ more] at isLast
          refine ih ?_ lower isLast
          rwa [List.getLast?_cons_cons] at filled

theorem Trimmed.lowerAfter {before chars : List Char} (trimmed : Trimmed chars) :
    Trimmed (lowerAfter before chars) :=
  ⟨isBlank_first_lowerAfter trimmed.first, isBlank_last_lowerAfter trimmed.last⟩

end Lowering

end Unicode

theorem normalise_eq_empty_iff {text : String} :
    normalise text = "" ↔ Unicode.isBlankText text := by
  rw [normalise, ← String.toList_inj, Unicode.toList_lowercase, Unicode.toList_trim]
  exact Unicode.lowerAfter_eq_nil_iff.trans Unicode.trimChars_eq_nil_iff

theorem trimmed_normalise (text : String) : Unicode.Trimmed (normalise text).toList := by
  rw [normalise, Unicode.toList_lowercase, Unicode.toList_trim]
  exact (Unicode.trimmed_trimChars text.toList).lowerAfter

end ThreatModel
