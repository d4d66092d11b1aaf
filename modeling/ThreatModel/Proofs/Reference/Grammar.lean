import ThreatModel.Proofs.Pieces
import ThreatModel.Reference.Basic

/-!
The grammar of reference tags: three or four segments, not empty and without a slash, with a slash between
each two of them. A text has such segments in one way at most. It is read as a tag exactly if it has them,
and the tag holds them all.
-/

namespace ThreatModel

theorem splitAtChar_eq_splitOn (separator : Char) (chars : List Char) :
    splitAtChar separator chars = chars.splitOn separator := by
  induction chars with
  | nil => rfl
  | cons c rest ih =>
      rw [splitAtChar, List.splitOn_cons_eq_if_modifyHead, ih]
      by_cases same : c = separator
      · rw [if_pos same, if_pos (beq_iff_eq.mpr same)]
      · rw [if_neg same, if_neg (mt beq_iff_eq.mp same)]
        cases pieces : rest.splitOn separator with
        | nil => exact absurd pieces (List.splitOn_ne_nil separator rest)
        | cons first others => rfl

namespace ReferenceTag

variable {text family dataTag fieldTag comparison : String} {segments others : List String}
  {tag : ReferenceTag}

/-- What can stand between slashes. -/
structure IsSegment (segment : String) : Prop where
  filled : segment ≠ ""
  noSlash : '/' ∉ segment.toList

/-- The text is these segments, three or four of them. -/
structure Segmented (text : String) (segments : List String) : Prop where
  count : segments.length = 3 ∨ segments.length = 4
  each : ∀ segment ∈ segments, IsSegment segment
  joined : "/".intercalate segments = text

/-- The segments that a tag is written in. The comparison of equal texts need not be written. -/
inductive WrittenIn (tag : ReferenceTag) : List String → Prop
  | short (equal : tag.comparison = equals) : WrittenIn tag [tag.family, tag.dataTag, tag.fieldTag]
  | long : WrittenIn tag [tag.family, tag.dataTag, tag.fieldTag, tag.comparison]

/-- The segments of a text, were it a tag. -/
def segmentsOf (text : String) : List String :=
  (text.toList.splitOn '/').map String.ofList

theorem intercalate_segmentsOf (text : String) : "/".intercalate (segmentsOf text) = text := by
  rw [← String.toList_inj, String.toList_intercalate, segmentsOf, map_toList_map_ofList]
  exact List.intercalate_splitOn '/'

theorem noSlash_of_mem_segmentsOf {segment : String} (member : segment ∈ segmentsOf text) :
    '/' ∉ segment.toList := by
  obtain ⟨piece, split, rfl⟩ := List.mem_map.mp member
  rw [String.toList_ofList]
  exact not_mem_of_mem_splitOn split

theorem Segmented.segmentsOf_eq (segmented : Segmented text segments) : segmentsOf text = segments := by
  have noSlash : ∀ piece ∈ segments.map String.toList, '/' ∉ piece := by
    intro piece member
    obtain ⟨segment, listed, rfl⟩ := List.mem_map.mp member
    exact (segmented.each segment listed).noSlash
  have filled : segments.map String.toList ≠ [] := by
    intro none
    have count := segmented.count
    rw [List.map_eq_nil_iff.mp none, List.length_nil] at count
    omega
  have slash : "/".toList = ['/'] := rfl
  rw [segmentsOf, ← segmented.joined, String.toList_intercalate, slash,
    List.splitOn_intercalate '/' noSlash filled, map_ofList_map_toList]

theorem Segmented.unique (segmented : Segmented text segments) (alike : Segmented text others) :
    segments = others :=
  segmented.segmentsOf_eq.symm.trans alike.segmentsOf_eq

theorem build_eq_some_iff : parse?.build text family dataTag fieldTag comparison = some tag ↔
    (∀ segment ∈ [family, dataTag, fieldTag, comparison], segment ≠ "") ∧
      ⟨text, family, dataTag, fieldTag, comparison⟩ = tag := by
  rw [parse?.build]
  split
  · next blank =>
      obtain ⟨segment, listed, isEmpty⟩ := List.any_eq_true.mp blank
      refine iff_of_false (fun none => nomatch none) fun filled => ?_
      exact filled.1 segment listed (String.isEmpty_iff.mp isEmpty)
  · next filled =>
      rw [Option.some.injEq]
      refine (and_iff_right fun segment listed isEmpty => filled ?_).symm
      exact List.any_eq_true.mpr ⟨segment, listed, String.isEmpty_iff.mpr isEmpty⟩

/-- What is read of a text depends on its segments. -/
theorem parse?_eq (text : String) : parse? text =
    match segmentsOf text with
    | [family, dataTag, fieldTag] => parse?.build text family dataTag fieldTag equals
    | [family, dataTag, fieldTag, comparison] => parse?.build text family dataTag fieldTag comparison
    | _ => none := by
  rw [parse?, splitAtChar_eq_splitOn]
  rfl

theorem segmented_of_filled (count : (segmentsOf text).length = 3 ∨ (segmentsOf text).length = 4)
    (filled : ∀ segment ∈ segmentsOf text, segment ≠ "") : Segmented text (segmentsOf text) where
  count := count
  each segment member := ⟨filled segment member, noSlash_of_mem_segmentsOf member⟩
  joined := intercalate_segmentsOf text

theorem exists_segments_of_parse? (read : parse? text = some tag) :
    tag.text = text ∧ ∃ segments, Segmented text segments ∧ tag.WrittenIn segments := by
  rw [parse?_eq] at read
  split at read
  · next family dataTag fieldTag segments =>
      obtain ⟨filled, rfl⟩ := build_eq_some_iff.mp read
      refine ⟨rfl, segmentsOf text, segmented_of_filled (.inl (by rw [segments]; rfl)) ?_, ?_⟩
      · rw [segments]
        exact fun segment listed => filled segment (List.mem_append_left [equals] listed)
      · rw [segments]
        exact .short rfl
  · next family dataTag fieldTag comparison segments =>
      obtain ⟨filled, rfl⟩ := build_eq_some_iff.mp read
      refine ⟨rfl, segmentsOf text, segmented_of_filled (.inr (by rw [segments]; rfl)) ?_, ?_⟩
      · rwa [segments]
      · rw [segments]
        exact .long
  · cases read

theorem Segmented.parse?_of_writtenIn (segmented : Segmented text segments)
    (written : tag.WrittenIn segments) (here : tag.text = text) : parse? text = some tag := by
  subst here
  rw [parse?_eq, segmented.segmentsOf_eq]
  cases written with
  | short equal =>
      refine build_eq_some_iff.mpr ⟨fun segment listed => ?_, by rw [← equal]⟩
      -- The comparison is none of the segments, yet it is not empty.
      rcases List.mem_append.mp (show segment ∈ [tag.family, tag.dataTag, tag.fieldTag] ++ [equals] from listed)
        with inText | isEquals
      · exact (segmented.each segment inText).filled
      · rw [List.mem_singleton.mp isEquals]
        decide
  | long => exact build_eq_some_iff.mpr ⟨fun segment listed => (segmented.each segment listed).filled, rfl⟩

theorem Segmented.exists_writtenIn (segmented : Segmented text segments) :
    ∃ tag : ReferenceTag, tag.text = text ∧ tag.WrittenIn segments := by
  rcases segmented.count with three | four
  · obtain ⟨family, dataTag, fieldTag, rfl⟩ := List.length_eq_three.mp three
    exact ⟨⟨text, family, dataTag, fieldTag, equals⟩, rfl, .short rfl⟩
  · match segments, four with
    | [family, dataTag, fieldTag, comparison], _ =>
        exact ⟨⟨text, family, dataTag, fieldTag, comparison⟩, rfl, .long⟩

theorem parse?_eq_some_iff : parse? text = some tag ↔
    tag.text = text ∧ ∃ segments, Segmented text segments ∧ tag.WrittenIn segments := by
  constructor
  · exact exists_segments_of_parse?
  · intro written
    obtain ⟨here, segments, segmented, written⟩ := written
    exact segmented.parse?_of_writtenIn written here

/-- Three segments with slashes between them are read as a tag that compares for equal texts. -/
theorem parse?_of_three (each : ∀ segment ∈ [family, dataTag, fieldTag], IsSegment segment) :
    parse? (family ++ "/" ++ dataTag ++ "/" ++ fieldTag) =
      some ⟨family ++ "/" ++ dataTag ++ "/" ++ fieldTag, family, dataTag, fieldTag, equals⟩ := by
  have joined : "/".intercalate [family, dataTag, fieldTag] =
      family ++ "/" ++ dataTag ++ "/" ++ fieldTag := by
    simp only [String.intercalate_cons_cons, String.intercalate_singleton, String.append_assoc]
  have segmented : Segmented _ [family, dataTag, fieldTag] := ⟨.inl rfl, each, joined⟩
  exact segmented.parse?_of_writtenIn (.short rfl) rfl

theorem parse?_of_four (each : ∀ segment ∈ [family, dataTag, fieldTag, comparison], IsSegment segment) :
    parse? (family ++ "/" ++ dataTag ++ "/" ++ fieldTag ++ "/" ++ comparison) =
      some ⟨family ++ "/" ++ dataTag ++ "/" ++ fieldTag ++ "/" ++ comparison,
        family, dataTag, fieldTag, comparison⟩ := by
  have joined : "/".intercalate [family, dataTag, fieldTag, comparison] =
      family ++ "/" ++ dataTag ++ "/" ++ fieldTag ++ "/" ++ comparison := by
    simp only [String.intercalate_cons_cons, String.intercalate_singleton, String.append_assoc]
  have segmented : Segmented _ [family, dataTag, fieldTag, comparison] := ⟨.inr rfl, each, joined⟩
  exact segmented.parse?_of_writtenIn .long rfl

/-- A text is read as a tag exactly if it has segments, which it has in one way at most. The tag keeps the
text and is written in these segments, and any four segments are read as the parts that they are. -/
theorem parse?_exact (text : String) :
    ((parse? text).isSome ↔ ∃ segments, Segmented text segments) ∧
    (∀ tag, parse? text = some tag ↔
      tag.text = text ∧ ∃ segments, Segmented text segments ∧ tag.WrittenIn segments) ∧
    (∀ segments others, Segmented text segments → Segmented text others → segments = others) ∧
    ∀ family dataTag fieldTag comparison,
      (∀ segment ∈ [family, dataTag, fieldTag, comparison], IsSegment segment) →
      text = family ++ "/" ++ dataTag ++ "/" ++ fieldTag ++ "/" ++ comparison →
      parse? text = some ⟨text, family, dataTag, fieldTag, comparison⟩ := by
  refine ⟨?_, fun tag => parse?_eq_some_iff, fun segments others => Segmented.unique, ?_⟩
  · rw [Option.isSome_iff_exists]
    constructor
    · intro read
      obtain ⟨tag, read⟩ := read
      obtain ⟨_, segments, segmented, _⟩ := exists_segments_of_parse? read
      exact ⟨segments, segmented⟩
    · intro has
      obtain ⟨segments, segmented⟩ := has
      obtain ⟨tag, here, written⟩ := segmented.exists_writtenIn
      exact ⟨tag, segmented.parse?_of_writtenIn written here⟩
  · intro family dataTag fieldTag comparison each here
    rw [here]
    exact parse?_of_four each

theorem parse?_exact_of_ending :
    parse? "ref/assets-data/storage-location/endswith" =
      some ⟨"ref/assets-data/storage-location/endswith", "ref", "assets-data", "storage-location", endsWith⟩ := by
  have each : ∀ segment ∈ ["ref", "assets-data", "storage-location", endsWith], IsSegment segment := by
    simp only [List.forall_mem_cons, List.not_mem_nil, false_implies, implies_true, and_true]
    exact ⟨⟨by decide, by decide⟩, ⟨by decide, by decide⟩, ⟨by decide, by decide⟩, ⟨by decide, by decide⟩⟩
  exact (parse?_exact _).2.2.2 _ _ _ _ each rfl

end ReferenceTag

end ThreatModel
