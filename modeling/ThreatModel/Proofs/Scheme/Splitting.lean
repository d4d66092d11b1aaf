import Mathlib.Data.List.Forall2
import ThreatModel.Proofs.Document.Parts
import ThreatModel.Proofs.Pattern.Spans
import ThreatModel.Proofs.Reference.NormalForm
import ThreatModel.Proofs.Scheme.HeaderRow

/-!
Queries that split texts, at the matches of a pattern or into lines. Parts have something in them and no
white space around it, stand in their text one after the other, and keep its provenance, which lines of
several texts do not. Lines that are put together and split again are the same lines.
-/

namespace ThreatModel

namespace Unicode

variable {chars piece : List Char} {pieces : List (List Char)}

/-- The pieces without white space around them, blank ones left out. -/
def cleaned (pieces : List (List Char)) : List (List Char) :=
  (pieces.map trimChars).filter fun piece => !piece.isEmpty

theorem cleaned_cons (piece : List Char) (pieces : List (List Char)) :
    cleaned (piece :: pieces) = cleaned [piece] ++ cleaned pieces := by
  rw [cleaned, List.map_cons, ← List.singleton_append, List.filter_append]
  rfl

theorem cleaned_flatMap (items : List α) (cut : α → List (List Char)) :
    cleaned (items.flatMap cut) = items.flatMap fun item => cleaned (cut item) := by
  simp only [cleaned, List.map_flatMap, List.filter_flatMap]

theorem mem_cleaned (member : piece ∈ cleaned pieces) :
    piece ≠ [] ∧ Trimmed piece ∧ ∃ whole ∈ pieces, trimChars whole = piece := by
  obtain ⟨trimmed, filled⟩ := List.mem_filter.mp member
  obtain ⟨whole, listed, rfl⟩ := List.mem_map.mp trimmed
  exact ⟨by simpa using filled, trimmed_trimChars whole, whole, listed, rfl⟩

theorem cleaned_singleton (filled : piece ≠ []) (trimmed : Trimmed piece) : cleaned [piece] = [piece] := by
  simp [cleaned, trimmed.trimChars_eq, filled]

theorem trimChars_infix_self (chars : List Char) : trimChars chars <:+: chars := by
  obtain ⟨before, after, whole, _⟩ := exists_blanks_around chars
  exact ⟨before, after, whole.symm⟩

theorem inOrder_cleaned (inOrder : InOrder pieces chars) : InOrder (cleaned pieces) chars :=
  (inOrder.map trimChars_infix_self).filter _

theorem map_trim_filter (texts : List String) :
    (texts.map trim).filter (!·.isEmpty) = (cleaned (texts.map String.toList)).map String.ofList := by
  have written : texts.map trim = ((texts.map String.toList).map trimChars).map String.ofList := by
    simp only [List.map_map]
    rfl
  rw [written, List.filter_map, cleaned]
  refine congrArg (List.map String.ofList) (List.filter_congr fun piece _ => congrArg not ?_)
  rw [Bool.eq_iff_iff, String.isEmpty_iff, List.isEmpty_iff, String.ofList_eq_empty_iff]

theorem trimChars_concat_of_blank {c : Char} (blank : isBlank c) :
    trimChars (chars ++ [c]) = trimChars chars := by
  have ends : ∀ last ∈ [c], isBlank last := fun last member => List.mem_singleton.mp member ▸ blank
  by_cases allBlank : ∀ first ∈ chars, isBlank first
  · rw [trimChars_append_of_blank allBlank, trimChars_eq_nil_iff.mpr (List.all_eq_true.mpr ends),
      trimChars_eq_nil_iff.mpr (List.all_eq_true.mpr allBlank)]
  · have filled : chars.dropWhile isBlank ≠ [] := mt List.dropWhile_eq_nil_iff.mp allBlank
    rw [trimChars_eq_rdropWhile, trimChars_eq_rdropWhile, List.dropWhile_append,
      if_neg (by simpa using filled), rdropWhile_append_of_blank ends]

end Unicode

namespace Chars

open Unicode

variable {text line : String}

theorem cleaned_dropReturn (line : List Char) : cleaned [dropReturn line] = cleaned [line] := by
  rw [dropReturn]
  split
  · next returned =>
      obtain ⟨kept, rfl⟩ := List.getLast?_eq_some_iff.mp returned
      rw [List.dropLast_concat, cleaned, cleaned, List.map_singleton, List.map_singleton,
        trimChars_concat_of_blank (by decide)]
  · rfl

/-- A carriage return at the end of a line and an empty line at the end of a text make no difference once
white space is taken off. -/
theorem cleaned_linesOf {fuel : Nat} {chars : List Char} (enough : chars.length < fuel) :
    cleaned (linesOf fuel chars) = cleaned (chars.splitOn '\n') := by
  induction fuel generalizing chars with
  | zero => exact absurd enough (Nat.not_lt_zero _)
  | succ fuel ih =>
      cases chars with
      | nil => rfl
      | cons c rest =>
          rw [linesOf.eq_3 _ _ (List.cons_ne_nil c rest)]
          by_cases broken : '\n' ∈ c :: rest
          · obtain ⟨line, after, split, unbroken⟩ := List.eq_append_cons_of_mem broken
            rw [split, List.length_append, List.length_cons] at enough
            rw [split, takeLine_append unbroken, List.splitOn_append_cons_self_of_not_mem unbroken]
            dsimp only
            rw [if_pos rfl, cleaned_cons, cleaned_cons line, cleaned_dropReturn, ih (by omega)]
          · rw [takeLine_of_not_mem broken, List.splitOn_eq_singleton broken]
            cases fuel <;> rfl

theorem trimmedLines_eq (text : String) :
    trimmedLines text = (cleaned (text.toList.splitOn '\n')).map String.ofList := by
  rw [← cleaned_linesOf (Nat.lt_succ_self _)]
  rfl

theorem trimmedLines_joined (leaves : List Text) :
    trimmedLines (Node.joined leaves).value = leaves.flatMap fun leaf => trimmedLines leaf.value := by
  by_cases none : leaves = []
  · -- The empty text splits into one empty piece, so that splitting what is joined does not apply.
    subst none
    decide
  · have filled : leaves.map (fun leaf => leaf.value.toList) ≠ [] := mt List.map_eq_nil_iff.mp none
    have chars : (Node.joined leaves).value.toList =
        ['\n'].intercalate (leaves.map fun leaf => leaf.value.toList) := by
      rw [Node.value_joined, String.toList_intercalate, List.map_map]
      rfl
    simp only [trimmedLines_eq, chars, splitOn_intercalate_eq_flatMap filled, List.flatMap_map, cleaned_flatMap,
      List.map_flatMap]

/-- A trimmed line is its own only trimmed line. -/
theorem trimmedLines_of_mem (member : line ∈ trimmedLines text) : trimmedLines line = [line] := by
  rw [trimmedLines_eq] at member
  obtain ⟨chars, isPart, rfl⟩ := List.mem_map.mp member
  obtain ⟨filled, trimmed, whole, listed, rfl⟩ := mem_cleaned isPart
  have unbroken : '\n' ∉ trimChars whole :=
    fun broken => not_mem_of_mem_splitOn listed ((trimChars_infix_self whole).mem broken)
  rw [trimmedLines_eq, String.toList_ofList, List.splitOn_eq_singleton unbroken,
    cleaned_singleton filled trimmed, List.map_singleton]

end Chars

/-- The parts are the pieces of a text without white space around them, blank ones left out, and all of one
provenance. They have something in them and stand in the text one after the other. -/
structure PartsOf (text : String) (pieces : List (List Char)) (origin : Properties String)
    (parts : List Text) : Prop where
  values : parts.map (fun part => part.value.toList) = Unicode.cleaned pieces
  filled : ∀ part ∈ parts, part.value ≠ ""
  trimmed : ∀ part ∈ parts, Unicode.Trimmed part.value.toList
  provenance : ∀ part ∈ parts, part.provenance = origin
  inOrder : InOrder (parts.map fun part => part.value.toList) text.toList

section Parts

variable {text : String} {pieces : List (List Char)}

/-- The pieces as texts. -/
def partsFrom (pieces : List (List Char)) (origin : Properties String) : List Text :=
  (Unicode.cleaned pieces).map fun part => ⟨.ofList part, origin⟩

theorem partsOf_partsFrom (inOrder : InOrder pieces text.toList) (origin : Properties String) :
    PartsOf text pieces origin (partsFrom pieces origin) := by
  have values : (partsFrom pieces origin).map (fun part => part.value.toList) = Unicode.cleaned pieces := by
    simp only [partsFrom, List.map_map, Function.comp_def, String.toList_ofList, List.map_id']
  have each : ∀ part ∈ partsFrom pieces origin, part.value.toList ∈ Unicode.cleaned pieces :=
    fun part member => values ▸ List.mem_map_of_mem member
  constructor
  · exact values
  · intro part member empty
    exact (Unicode.mem_cleaned (each part member)).1 (String.toList_eq_nil_iff.mpr empty)
  · exact fun part member => (Unicode.mem_cleaned (each part member)).2.1
  · intro part member
    obtain ⟨_, _, rfl⟩ := List.mem_map.mp member
    rfl
  · rw [values]
    exact Unicode.inOrder_cleaned inOrder

end Parts

namespace Query

variable {params : Params} {input : Node}

/-- What stands for an element in the result: for a text its parts between the successive matches of the
pattern, and any other element itself. -/
inductive Replaces (pattern : Pattern) : Node → List Node → Prop
  | parts {leaf : Text} {spans : List (Nat × Nat)} {pieces : List (List Char)} {parts : List Text}
      (found : pattern.Successive leaf.value.toList.toArray 0 none spans)
      (cut : CutAt 0 spans pieces leaf.value.toList)
      (made : PartsOf leaf.value pieces leaf.provenance parts) :
      Replaces pattern (.text leaf) (parts.map .text)
  | itself {element : Node} (other : ∀ leaf, element ≠ .text leaf) : Replaces pattern element [element]

/-- What splitting at a pattern makes of a node. -/
inductive SplitsTo (pattern : Pattern) : Node → Node → Prop
  | absent : SplitsTo pattern .null .null
  | text {leaf : Text} {parts : List Node} (made : Replaces pattern (.text leaf) parts) :
      SplitsTo pattern (.text leaf) (.list parts)
  | list {items : List Node} {groups : List (List Node)}
      (each : List.Forall₂ (Replaces pattern) items groups) :
      SplitsTo pattern (.list items) (.list groups.flatten)
  | mapping {entries : Mapping} : SplitsTo pattern (.map entries) .null

/-- What splitting into lines makes of a node: the lines of its texts, one text after the other. Lines of an
only text keep its provenance. -/
inductive LinesOf : Node → Node → Prop
  | absent : LinesOf .null .null
  | lines {node : Node} {groups : List (List Text)} (present : node ≠ .null)
      (each : List.Forall₂ (fun leaf => PartsOf leaf.value (leaf.value.toList.splitOn '\n')
        (if node.leaves.length = 1 then leaf.provenance else .empty)) node.leaves groups) :
      LinesOf node (.list (groups.flatten.map .text))

theorem replaces_splitParts (pattern : Pattern) (leaf : Text) :
    Replaces pattern (.text leaf) (splitParts pattern leaf) := by
  have cut := pattern.cutAt_split leaf.value
  have parts : splitParts pattern leaf =
      (partsFrom ((pattern.split leaf.value).map String.toList) leaf.provenance).map .text := by
    rw [splitParts, Unicode.map_trim_filter, partsFrom, List.map_map, List.map_map]
    rfl
  rw [parts]
  exact .parts (pattern.successive_spans _) cut (partsOf_partsFrom cut.inOrder _)

theorem replaces_splitElement (pattern : Pattern) (element : Node) :
    Replaces pattern element (splitElement pattern element) := by
  cases element with
  | text leaf => exact replaces_splitParts pattern leaf
  | null | list | map => exact .itself nofun

theorem splitsTo_applySplit (pattern : Pattern) (input : Node) :
    SplitsTo pattern input (applySplit pattern input) := by
  cases input with
  | null => exact .absent
  | text leaf => exact .text (replaces_splitParts pattern leaf)
  | list items =>
      refine .list (List.forall₂_map_right_iff.mpr ?_)
      exact List.forall₂_same.mpr fun item _ => replaces_splitElement pattern item
  | map entries => exact .mapping

/-- The lines of the texts as texts of one provenance. -/
def linesFrom (leaves : List Text) (origin : Properties String) : List Text :=
  (leaves.flatMap fun leaf => Chars.trimmedLines leaf.value).map fun line => ⟨line, origin⟩

theorem splitLines_eq (present : input ≠ .null) : Query.splitLines.apply params input =
    .list ((linesFrom input.leaves (Node.joined input.leaves).provenance).map .text) := by
  rw [apply, Node.rendered?_of_ne_null present, linesFrom, ← Chars.trimmedLines_joined, List.map_map]
  rfl

theorem linesFrom_eq_flatten (leaves : List Text) (origin : Properties String) :
    linesFrom leaves origin =
      (leaves.map fun leaf => partsFrom (leaf.value.toList.splitOn '\n') origin).flatten := by
  simp only [linesFrom, Chars.trimmedLines_eq, List.map_flatMap, List.map_map, partsFrom]
  rfl

theorem provenance_joined_of_mem {leaves : List Text} {leaf : Text} (member : leaf ∈ leaves) :
    (Node.joined leaves).provenance = if leaves.length = 1 then leaf.provenance else .empty := by
  split
  · next only =>
      obtain ⟨single, rfl⟩ := List.length_eq_one_iff.mp only
      rw [List.mem_singleton.mp member]
      rfl
  · next several => exact Node.provenance_joined_of_length_ne several

theorem linesOf_splitLines (params : Params) (input : Node) :
    LinesOf input (Query.splitLines.apply params input) := by
  by_cases absent : input = .null
  · subst absent
    exact .absent
  · rw [splitLines_eq absent, linesFrom_eq_flatten]
    refine .lines absent (List.forall₂_map_right_iff.mpr (List.forall₂_same.mpr fun leaf member => ?_))
    rw [provenance_joined_of_mem member]
    refine partsOf_partsFrom ?_ _
    have inOrder := InOrder.intercalate ['\n'] (leaf.value.toList.splitOn '\n')
    rwa [List.intercalate_splitOn] at inOrder

/-- Lines are lines again, whatever their provenance. -/
theorem linesFrom_linesFrom (leaves : List Text) (origin again : Properties String) :
    linesFrom (linesFrom leaves origin) again = linesFrom leaves again := by
  have each : ∀ line ∈ leaves.flatMap (fun leaf => Chars.trimmedLines leaf.value),
      Chars.trimmedLines line = [line] := by
    intro line member
    obtain ⟨leaf, _, isLine⟩ := List.mem_flatMap.mp member
    exact Chars.trimmedLines_of_mem isLine
  rw [linesFrom, linesFrom, List.flatMap_map, List.flatMap_congr each, List.flatMap_singleton', linesFrom]

theorem plain_list_linesFrom (leaves : List Text) (origin again : Properties String) :
    (Node.list ((linesFrom leaves origin).map .text)).plain =
      (Node.list ((linesFrom leaves again).map .text)).plain := by
  simp only [Node.plain, Node.mapParts_list, linesFrom, List.map_map]
  rfl

/-- The lines that come out are split into lines no further. -/
theorem plain_splitLines_splitLines (params : Params) (input : Node) :
    (Query.splitLines.apply params (Query.splitLines.apply params input)).plain =
      (Query.splitLines.apply params input).plain := by
  by_cases absent : input = .null
  · subst absent
    rfl
  · rw [splitLines_eq absent]
    generalize (Node.joined input.leaves).provenance = origin
    have listed : Node.list ((linesFrom input.leaves origin).map .text) ≠ .null := nofun
    rw [splitLines_eq listed, Node.leaves_list_map_text, linesFrom_linesFrom]
    exact plain_list_linesFrom ..

/-- Splitting a text at a pattern or into lines leaves clean parts of it in their order, with its provenance
as far as it is known, and a second splitting into lines leaves the lines as they are. -/
theorem splits_cleanly (params : Params) (input : Node) :
    (∀ pattern, params.pattern? = some pattern → SplitsTo pattern input (Query.regexSplit.apply params input)) ∧
      LinesOf input (Query.splitLines.apply params input) ∧
      (Query.splitLines.apply params (Query.splitLines.apply params input)).plain =
        (Query.splitLines.apply params input).plain := by
  refine ⟨fun pattern compiled => ?_, linesOf_splitLines params input, plain_splitLines_splitLines params input⟩
  rw [apply, compiled]
  exact splitsTo_applySplit pattern input

/-- A cell of two lines, which end in different ways, with the sheet where it was found. -/
def listedCell : Text := ⟨" Keys , \r\n,Tokens\n\n", .ofList [("sheet", "assets")]⟩

theorem splits_cleanly_of_listedCell :
    ∃ pattern, Params.pattern? [("pattern", .string ",")] = some pattern ∧
      SplitsTo pattern (.text listedCell)
        (Query.regexSplit.apply [("pattern", .string ",")] (.text listedCell)) ∧
      (Query.regexSplit.apply [("pattern", .string ",")] (.text listedCell)).leaves =
        [⟨"Keys", listedCell.provenance⟩, ⟨"Tokens", listedCell.provenance⟩] ∧
      (Query.splitLines.apply [] (.text listedCell)).leaves =
        [⟨"Keys ,", listedCell.provenance⟩, ⟨",Tokens", listedCell.provenance⟩] := by
  have compiles : (Params.pattern? [("pattern", .string ",")]).isSome := by decide +kernel
  obtain ⟨pattern, compiled⟩ := Option.isSome_iff_exists.mp compiles
  have clean := splits_cleanly [("pattern", .string ",")] (.text listedCell)
  exact ⟨pattern, compiled, clean.1 pattern compiled, by decide +kernel, by decide +kernel⟩

end Query

end ThreatModel
