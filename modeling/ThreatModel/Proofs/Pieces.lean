import Mathlib.Data.List.Basic

/-!
Texts in pieces. A text that is cut at separators consists of its pieces with the separators between them.
So the pieces stand in it one after the other, and so does what remains of them when some are left out and
others lose something at their ends.
-/

namespace ThreatModel

variable {α : Type u} {part whole separator : List α} {parts pieces : List (List α)} {place : Nat}
  {spans : List (Nat × Nat)}

/-- The parts stand in the whole one after the other. -/
inductive InOrder : List (List α) → List α → Prop
  | none {whole : List α} : InOrder [] whole
  | next {gap part rest : List α} {parts : List (List α)} (behind : InOrder parts rest) :
      InOrder (part :: parts) (gap ++ (part ++ rest))

namespace InOrder

theorem cons (part : List α) (behind : InOrder parts whole) : InOrder (part :: parts) (part ++ whole) :=
  @next _ [] part whole parts behind

theorem single (part : List α) : InOrder [part] part := by
  have inOrder : InOrder [part] (part ++ []) := .cons part .none
  rwa [List.append_nil] at inOrder

theorem prepend (gap : List α) (inOrder : InOrder parts whole) : InOrder parts (gap ++ whole) := by
  cases inOrder with
  | none => exact .none
  | next behind =>
      rw [← List.append_assoc]
      exact .next behind

theorem filter (kept : List α → Bool) (inOrder : InOrder parts whole) :
    InOrder (parts.filter kept) whole := by
  induction inOrder with
  | none => exact .none
  | @next gap part rest parts _ ih =>
      rw [List.filter_cons]
      split
      · exact .next ih
      · exact (ih.prepend part).prepend gap

theorem map {shrink : List α → List α} (within : ∀ part, shrink part <:+: part)
    (inOrder : InOrder parts whole) : InOrder (parts.map shrink) whole := by
  induction inOrder with
  | none => exact .none
  | @next gap part rest parts _ ih =>
      obtain ⟨before, after, around⟩ := within part
      have split : gap ++ (part ++ rest) = (gap ++ before) ++ (shrink part ++ (after ++ rest)) :=
        calc gap ++ (part ++ rest)
          _ = gap ++ (before ++ shrink part ++ after ++ rest) := by rw [around]
          _ = (gap ++ before) ++ (shrink part ++ (after ++ rest)) := by simp only [List.append_assoc]
      rw [List.map_cons, split]
      exact .next (ih.prepend after)

theorem intercalate (separator : List α) (pieces : List (List α)) :
    InOrder pieces (separator.intercalate pieces) := by
  induction pieces with
  | nil => exact .none
  | cons piece rest ih =>
      cases rest with
      | nil =>
          rw [List.intercalate_singleton]
          exact .single piece
      | cons second others =>
          rw [List.intercalate_cons_cons, List.append_assoc]
          exact .cons piece (ih.prepend separator)

end InOrder

/-- The whole, which begins at `place`, is the pieces with a separator at each of the spans. -/
inductive CutAt : Nat → List (Nat × Nat) → List (List α) → List α → Prop
  | last {place : Nat} {piece : List α} : CutAt place [] [piece] piece
  | next {place first last : Nat} {piece separator rest : List α} {spans : List (Nat × Nat)}
      {pieces : List (List α)} (before : first = place + piece.length)
      (width : last = first + separator.length) (behind : CutAt last spans pieces rest) :
      CutAt place ((first, last) :: spans) (piece :: pieces) (piece ++ (separator ++ rest))

theorem CutAt.inOrder (cut : CutAt place spans pieces whole) : InOrder pieces whole := by
  induction cut with
  | @last _ piece => exact .single piece
  | @next _ _ _ piece separator _ _ _ _ _ _ ih => exact .cons piece (ih.prepend separator)

section SplitOn

variable [BEq α] [LawfulBEq α] {c : α}

theorem not_mem_of_mem_splitOn {piece : List α} (member : piece ∈ whole.splitOn c) : c ∉ piece := by
  induction whole generalizing piece with
  | nil =>
      rw [List.splitOn_nil, List.mem_singleton] at member
      rw [member]
      exact List.not_mem_nil
  | cons first rest ih =>
      rw [List.splitOn_cons_eq_if_modifyHead] at member
      split at member
      · rcases List.mem_cons.mp member with rfl | behind
        · exact List.not_mem_nil
        · exact ih behind
      · next different =>
          rw [beq_iff_eq] at different
          cases pieces : rest.splitOn c with
          | nil => exact absurd pieces (List.splitOn_ne_nil c rest)
          | cons head tail =>
              rw [pieces, List.modifyHead_cons] at member
              rw [pieces] at ih
              rcases List.mem_cons.mp member with rfl | behind
              · rw [List.mem_cons, not_or]
                exact ⟨Ne.symm different, ih List.mem_cons_self⟩
              · exact ih (List.mem_cons_of_mem _ behind)

/-- Pieces that are joined by a separator and split at it again are split one by one. -/
theorem splitOn_intercalate_eq_flatMap (filled : pieces ≠ []) :
    ([c].intercalate pieces).splitOn c = pieces.flatMap fun piece => piece.splitOn c := by
  induction pieces with
  | nil => exact absurd rfl filled
  | cons piece rest ih =>
      cases rest with
      | nil => rw [List.intercalate_singleton, List.flatMap_singleton]
      | cons second others =>
          rw [List.intercalate_cons_cons, List.append_assoc, List.singleton_append,
            List.splitOn_append_cons_self, ih (List.cons_ne_nil _ _)]
          rfl

end SplitOn

theorem map_toList_map_ofList (pieces : List (List Char)) :
    (pieces.map String.ofList).map String.toList = pieces := by
  simp only [List.map_map, Function.comp_def, String.toList_ofList, List.map_id']

theorem map_ofList_map_toList (pieces : List String) :
    (pieces.map String.toList).map String.ofList = pieces := by
  simp only [List.map_map, Function.comp_def, String.ofList_toList, List.map_id']

end ThreatModel
