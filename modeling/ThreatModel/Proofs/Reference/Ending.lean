import ThreatModel.Proofs.Reference.NormalForm

/-!
Endings in normal form. Lower-casing reads what stands before a letter for one thing only, whether a capital
sigma closes a word. So the normal form of a text ends with the normal form of its ending, unless the ending
begins with a capital sigma that closes a word of the text and stands alone in the ending.
-/

namespace ThreatModel

namespace Unicode

variable {before other chars after blanks front ending : List Char} {c : Char}

theorem leadsToCased_cons (c : Char) (chars : List Char) :
    leadsToCased (c :: chars) = if isCaseIgnorable c then leadsToCased chars else isCased c := by
  rw [leadsToCased, List.dropWhile_cons]
  by_cases ignorable : isCaseIgnorable c
  · rw [if_pos ignorable, if_pos ignorable]
    rfl
  · rw [if_neg ignorable, if_neg ignorable]

theorem lowerIn_congr (same : leadsToCased before = leadsToCased other) :
    lowerIn before c after = lowerIn other c after := by
  rw [lowerIn, lowerIn, same]

theorem lowerIn_of_ne_sigma (notSigma : c ≠ 'Σ') : lowerIn before c after = lowerIn other c after := by
  rw [lowerIn, lowerIn, if_neg notSigma, if_neg notSigma]

theorem lowerAfter_congr (same : leadsToCased before = leadsToCased other) :
    lowerAfter before chars = lowerAfter other chars := by
  induction chars generalizing before other with
  | nil => rfl
  | cons c rest ih =>
      have sameNext : leadsToCased (c :: before) = leadsToCased (c :: other) := by
        rw [leadsToCased_cons, leadsToCased_cons, same]
      rw [lowerAfter, lowerAfter, lowerIn_congr same, ih sameNext]

theorem length_lowerIn : (lowerIn before c after).length = (lowerIn other c after).length := by
  by_cases sigma : c = 'Σ'
  · have single : ∀ context, (lowerIn context c after).length = 1 := by
      intro context
      rw [lowerIn, if_pos sigma]
      split <;> rfl
    rw [single, single]
  · rw [lowerIn_of_ne_sigma sigma]

theorem length_lowerAfter : (lowerAfter before chars).length = (lowerAfter other chars).length := by
  induction chars generalizing before other with
  | nil => rfl
  | cons c rest ih =>
      rw [lowerAfter, lowerAfter, List.length_append, List.length_append, length_lowerIn, ih]

theorem exists_lowerAfter_append (before front ending : List Char) :
    ∃ lower, lowerAfter before (front ++ ending) =
      lower ++ lowerAfter (front.reverse ++ before) ending := by
  induction front generalizing before with
  | nil => exact ⟨[], rfl⟩
  | cons c rest ih =>
      obtain ⟨lower, split⟩ := ih (c :: before)
      refine ⟨lowerIn before c (rest ++ ending) ++ lower, ?_⟩
      rw [List.cons_append, lowerAfter, split, List.append_assoc, List.reverse_cons, List.append_assoc]
      rfl

/-- The first letter that counts is a capital sigma, and no cased letter comes next. -/
def opensWithFinal (chars : List Char) : Bool :=
  match chars.dropWhile isCaseIgnorable with
  | c :: rest => c == 'Σ' && !leadsToCased rest
  | [] => false

theorem opensWithFinal_cons (c : Char) (rest : List Char) :
    opensWithFinal (c :: rest) =
      if isCaseIgnorable c then opensWithFinal rest else c == 'Σ' && !leadsToCased rest := by
  rw [opensWithFinal, List.dropWhile_cons]
  by_cases ignorable : isCaseIgnorable c
  · rw [if_pos ignorable, if_pos ignorable]
    rfl
  · rw [if_neg ignorable, if_neg ignorable]

/-- The ending opens with a capital sigma that closes a word of the text, as a cased letter leads to it. -/
def closesWord (front ending : List Char) : Bool :=
  leadsToCased front.reverse && opensWithFinal ending

theorem lowerAfter_eq_iff (cased : leadsToCased before = true) (uncased : leadsToCased other = false) :
    lowerAfter before chars = lowerAfter other chars ↔ opensWithFinal chars = false := by
  -- What stands before is passed on up to the first letter that counts and is forgotten after it.
  induction chars generalizing before other with
  | nil => exact iff_of_true rfl rfl
  | cons c rest ih =>
      rw [lowerAfter, lowerAfter, opensWithFinal_cons]
      by_cases ignorable : isCaseIgnorable c
      · have notSigma : c ≠ 'Σ' := by
          rintro rfl
          revert ignorable
          decide +kernel
        rw [if_pos ignorable, lowerIn_of_ne_sigma notSigma, List.append_cancel_left_eq]
        apply ih
        · rw [leadsToCased_cons, if_pos ignorable, cased]
        · rw [leadsToCased_cons, if_pos ignorable, uncased]
      · have sameNext : leadsToCased (c :: before) = leadsToCased (c :: other) := by
          rw [leadsToCased_cons, leadsToCased_cons, if_neg ignorable, if_neg ignorable]
        rw [if_neg ignorable, lowerAfter_congr sameNext, List.append_cancel_right_eq]
        by_cases sigma : c = 'Σ'
        · rw [lowerIn, lowerIn, if_pos sigma, if_pos sigma, cased, uncased, sigma]
          cases leadsToCased rest
          · decide
          · decide
        · rw [beq_false_of_ne sigma]
          exact iff_of_true (lowerIn_of_ne_sigma sigma) rfl

theorem suffix_lowerAfter_iff :
    lowerAfter [] ending <:+ lowerAfter [] (front ++ ending) ↔ closesWord front ending = false := by
  have nothingBefore : leadsToCased [] = false := rfl
  obtain ⟨lower, split⟩ := exists_lowerAfter_append [] front ending
  rw [List.append_nil] at split
  have whole : lowerAfter [] ending <:+ lowerAfter [] (front ++ ending) ↔
      lowerAfter front.reverse ending = lowerAfter [] ending := by
    rw [split]
    constructor
    · intro ends
      have within := List.suffix_of_suffix_length_le ends (List.suffix_append lower _) length_lowerAfter.le
      exact (within.eq_of_length length_lowerAfter).symm
    · intro same
      rw [same]
      exact List.suffix_append lower _
  rw [whole, closesWord]
  cases cased : leadsToCased front.reverse with
  | true => rw [lowerAfter_eq_iff cased nothingBefore, Bool.true_and]
  | false => exact iff_of_true (lowerAfter_congr (cased.trans nothingBefore.symm)) rfl

section Blanks

theorem not_isCaseIgnorable_of_isBlank (blank : isBlank c) : isCaseIgnorable c = false := by
  have clear : ∀ point ∈ blankPoints, caseIgnorableRanges.contains point = false := by decide +kernel
  exact clear _ (mem_blankPoints blank)

theorem not_isCased_of_isBlank (blank : isBlank c) : isCased c = false := by
  have clear : ∀ point ∈ blankPoints, casedRanges.contains point = false := by decide +kernel
  exact clear _ (mem_blankPoints blank)

theorem leadsToCased_of_blank (blank : isBlank c) : leadsToCased (c :: chars) = false := by
  rw [leadsToCased_cons, not_isCaseIgnorable_of_isBlank blank, if_neg Bool.false_ne_true,
    not_isCased_of_isBlank blank]

theorem opensWithFinal_of_blank (blank : isBlank c) : opensWithFinal (c :: chars) = false := by
  have notSigma : c ≠ 'Σ' := by
    rintro rfl
    cases blank
  rw [opensWithFinal_cons, not_isCaseIgnorable_of_isBlank blank, if_neg Bool.false_ne_true,
    beq_false_of_ne notSigma, Bool.false_and]

theorem leadsToCased_append_blanks (blank : ∀ c ∈ blanks, isBlank c) :
    leadsToCased (chars ++ blanks) = leadsToCased chars := by
  induction chars with
  | nil =>
      cases blanks with
      | nil => rfl
      | cons c rest => exact leadsToCased_of_blank (blank c List.mem_cons_self)
  | cons c rest ih => rw [List.cons_append, leadsToCased_cons, leadsToCased_cons, ih]

theorem opensWithFinal_append_blanks (blank : ∀ c ∈ blanks, isBlank c) :
    opensWithFinal (chars ++ blanks) = opensWithFinal chars := by
  induction chars with
  | nil =>
      cases blanks with
      | nil => rfl
      | cons c rest => exact opensWithFinal_of_blank (blank c List.mem_cons_self)
  | cons c rest ih =>
      rw [List.cons_append, opensWithFinal_cons, opensWithFinal_cons, ih, leadsToCased_append_blanks blank]

/-- Trimming a text trims the ending at its end. What is left in front are all characters before the first
that the ending keeps, without the white space that the text begins with. -/
theorem trimChars_append (filled : trimChars ending ≠ []) :
    trimChars (front ++ ending) =
      (front ++ ending.takeWhile isBlank).dropWhile isBlank ++ trimChars ending := by
  rw [trimChars_eq_rdropWhile] at filled
  have dropped : (front ++ ending).dropWhile isBlank =
      (front ++ ending.takeWhile isBlank).dropWhile isBlank ++ ending.dropWhile isBlank := by
    conv_lhs => rw [← List.takeWhile_append_dropWhile (p := isBlank) (l := ending), ← List.append_assoc]
    rw [List.dropWhile_append, List.dropWhile_idempotent]
    split
    · next nothing => rw [List.isEmpty_iff.mp nothing, List.nil_append]
    · rfl
  rw [trimChars_eq_rdropWhile, trimChars_eq_rdropWhile, dropped, List.rdropWhile, List.reverse_append,
    List.dropWhile_append, if_neg, List.reverse_append, List.reverse_reverse]
  · rfl
  · rw [List.isEmpty_iff]
    exact fun nothing => filled (congrArg List.reverse nothing)

theorem leadsToCased_append_of_blank (blank : ∀ c ∈ blanks, isBlank c) (some : blanks ≠ []) :
    leadsToCased (blanks ++ chars) = false := by
  cases blanks with
  | nil => exact absurd rfl some
  | cons c rest => exact leadsToCased_of_blank (blank c List.mem_cons_self)

theorem leadsToCased_reverse_dropWhile (chars : List Char) :
    leadsToCased (chars.dropWhile isBlank).reverse = leadsToCased chars.reverse := by
  have blank : ∀ c ∈ (chars.takeWhile isBlank).reverse, isBlank c := fun c member =>
    List.mem_takeWhile_imp (List.mem_reverse.mp member)
  conv_rhs => rw [← List.takeWhile_append_dropWhile (p := isBlank) (l := chars), List.reverse_append]
  exact (leadsToCased_append_blanks blank).symm

theorem opensWithFinal_trimChars (chars : List Char) :
    opensWithFinal (trimChars chars) = opensWithFinal (chars.dropWhile isBlank) := by
  have blank : ∀ c ∈ (chars.dropWhile isBlank).rtakeWhile isBlank, isBlank c := fun c member =>
    List.mem_rtakeWhile_imp member
  conv_rhs => rw [← List.rdropWhile_append_rtakeWhile (p := isBlank) (l := chars.dropWhile isBlank)]
  exact (opensWithFinal_append_blanks blank).symm

theorem closesWord_trimChars :
    closesWord ((front ++ ending.takeWhile isBlank).dropWhile isBlank) (trimChars ending) =
      closesWord front ending := by
  have whole := List.takeWhile_append_dropWhile (p := isBlank) (l := ending)
  have blank : ∀ c ∈ ending.takeWhile isBlank, isBlank c := fun c member => List.mem_takeWhile_imp member
  rw [closesWord, closesWord, leadsToCased_reverse_dropWhile, opensWithFinal_trimChars]
  cases leading : ending.takeWhile isBlank with
  | nil =>
      rw [leading, List.nil_append] at whole
      rw [List.append_nil, whole]
  | cons c rest =>
      -- White space in front of the ending is between the text and the sigma.
      rw [leading] at whole blank
      have blankBefore : ∀ other ∈ (c :: rest).reverse, isBlank other := fun other member =>
        blank other (List.mem_reverse.mp member)
      have notFinal : opensWithFinal ending = false := by
        rw [← whole]
        exact opensWithFinal_of_blank (blank c List.mem_cons_self)
      rw [List.reverse_append, leadsToCased_append_of_blank blankBefore (by simp), notFinal, Bool.false_and,
        Bool.and_false]

end Blanks

end Unicode

namespace ReferenceTag

variable {tag : ReferenceTag} {custom : Option Comparison} {value found : String} {key : KeyId}

theorem accepts_of_equals (compares : tag.comparison = equals) :
    tag.accepts custom value key found = true ↔ normalise value = normalise found := by
  unfold accepts
  rw [if_pos compares, beq_iff_eq]

theorem accepts_of_endsWith (compares : tag.comparison = endsWith) :
    tag.accepts custom value key found = true ↔
      normalise found ≠ "" ∧ (normalise found).toList <:+ (normalise value).toList := by
  have notEquals : tag.comparison ≠ equals := by
    rw [compares]
    decide
  unfold accepts
  rw [if_neg notEquals, if_pos compares]
  simp [ThreatModel.endsWith]

theorem suffix_normalise_iff {front ending : String} (filled : Unicode.isBlankText ending = false) :
    (normalise ending).toList <:+ (normalise (front ++ ending)).toList ↔
      Unicode.closesWord front.toList ending.toList = false := by
  have kept : Unicode.trimChars ending.toList ≠ [] := by
    rw [Ne, Unicode.trimChars_eq_nil_iff]
    exact Bool.eq_false_iff.mp filled
  simp only [normalise, Unicode.toList_lowercase, Unicode.toList_trim, String.toList_append]
  rw [Unicode.trimChars_append kept, Unicode.suffix_lowerAfter_iff, Unicode.closesWord_trimChars]

/-- A text is accepted against what it ends with, unless a capital sigma that opens the ending closes a word
of the text. What is equal to a text that is not blank is accepted against it too, and what is accepted
against a text is accepted against all that the text is accepted against. -/
theorem accepts_ending_iff (compares : tag.comparison = endsWith) (custom : Option Comparison) :
    (∀ (front ending : String) (key : KeyId), Unicode.isBlankText ending = false →
      (tag.accepts custom (front ++ ending) key ending = true ↔
        Unicode.closesWord front.toList ending.toList = false)) ∧
    (∀ (equalTag : ReferenceTag) (value found : String) (key : KeyId), equalTag.comparison = equals →
      Unicode.isBlankText found = false → equalTag.accepts custom value key found = true →
        tag.accepts custom value key found = true) ∧
    ∀ (first second third : String) (key other : KeyId), tag.accepts custom first key second = true →
      tag.accepts custom second other third = true → tag.accepts custom first other third = true := by
  have nonempty : ∀ {text : String}, Unicode.isBlankText text = false → normalise text ≠ "" := by
    intro text filled
    rw [Ne, normalise_eq_empty_iff]
    exact Bool.eq_false_iff.mp filled
  simp only [accepts_of_endsWith compares]
  refine ⟨?_, ?_, ?_⟩
  · intro front ending key filled
    rw [and_iff_right (nonempty filled), suffix_normalise_iff filled]
  · intro equalTag value found key equal filled accepted
    rw [(accepts_of_equals equal).mp accepted]
    exact ⟨nonempty filled, List.suffix_refl _⟩
  · rintro first second third - - ⟨-, secondEnds⟩ ⟨thirdFilled, thirdEnds⟩
    exact ⟨thirdFilled, thirdEnds.trans secondEnds⟩

/-- The assets of a threat, named by where they are stored. -/
def storageTag : ReferenceTag :=
  ⟨"ref/assets-data/storage-location/endswith", "ref", "assets-data", "storage-location", endsWith⟩

/-- The sigma at the end is final in the text and in the ending, as letters lead to it in both. -/
theorem accepts_ending_of_storage :
    storageTag.comparison = endsWith ∧ Unicode.isBlankText "ΔΟΣ" = false ∧
      storageTag.accepts none ("Η Ο" ++ "ΔΟΣ") ⟨0⟩ "ΔΟΣ" = true ∧
      ({ storageTag with comparison := equals } : ReferenceTag).accepts none " δος" ⟨0⟩ "ΔΟΣ" = true ∧
      storageTag.accepts none " δος" ⟨0⟩ "ΔΟΣ" = true ∧
      storageTag.accepts none "Η Οδός" ⟨1⟩ "ΟΔΌΣ" = true ∧ storageTag.accepts none "ΟΔΌΣ" ⟨2⟩ "ΌΣ" = true ∧
      storageTag.accepts none "Η Οδός" ⟨1⟩ "ΌΣ" = true := by
  have compares : storageTag.comparison = endsWith := rfl
  have filled : Unicode.isBlankText "ΔΟΣ" = false := by decide
  obtain ⟨literal, equal, further⟩ := accepts_ending_iff compares none
  have longer : storageTag.accepts none "Η Οδός" ⟨1⟩ "ΟΔΌΣ" = true := by decide +kernel
  have shorter : storageTag.accepts none "ΟΔΌΣ" ⟨2⟩ "ΌΣ" = true := by decide +kernel
  have same : ({ storageTag with comparison := equals } : ReferenceTag).accepts none " δος" ⟨0⟩ "ΔΟΣ" = true := by
    decide +kernel
  exact ⟨compares, filled, (literal "Η Ο" "ΔΟΣ" ⟨0⟩ filled).mpr (by decide +kernel), same,
    equal _ _ _ _ rfl filled same, longer, shorter, further _ _ _ _ _ longer shorter⟩

/-- A sigma by itself is not final, and the one that it is in the text is. -/
theorem closing_sigma_not_accepted :
    Unicode.isBlankText "Σ" = false ∧ storageTag.accepts none ("ΟΔΟ" ++ "Σ") ⟨0⟩ "Σ" = false := by
  decide +kernel

end ReferenceTag

end ThreatModel
