import ThreatModel.Pattern.Basic
import ThreatModel.Proofs.Pieces

/-!
Where matches stand. A way through a program keeps in slot zero the place where it began, so what a search
finds lies between the place it starts from and the end of the text. Successive matches therefore follow
one another, and splitting at them takes the text apart: pieces and matches together are the text.
-/

namespace ThreatModel.Pattern

variable {program : Array Step} {text : Array Char} {pattern : Pattern} {slots : Slots} {ways : Ways}
  {origin place later limit : Nat}

/-- The way began between two places. -/
structure Begun (origin place : Nat) (slots : Slots) : Prop where
  room : 1 < slots.size
  first : ∃ first, slots[0]? = some (some first) ∧ origin ≤ first ∧ first ≤ place

/-- All ways that wait began between two places. -/
def Ways.Begun (ways : Ways) (origin place : Nat) : Prop :=
  ∀ way ∈ ways.queue, Pattern.Begun origin place way.2

/-- The match lies between two places. -/
def Spans (origin limit : Nat) (slots : Slots) : Prop :=
  ∃ first last, bounds? slots 0 = some (first, last) ∧ origin ≤ first ∧ first ≤ last ∧ last ≤ limit

namespace Begun

theorem mono (begun : Begun origin place slots) (onwards : place ≤ later) : Begun origin later slots := by
  obtain ⟨first, here, after, before⟩ := begun.first
  exact ⟨begun.room, first, here, after, Nat.le_trans before onwards⟩

theorem start {slotCount : Nat} (room : 1 < slotCount) (after : origin ≤ place) :
    Begun origin place ((Array.replicate slotCount none).set! 0 (some place)) where
  room := by simpa using room
  first := ⟨place, by simp [Nat.zero_lt_of_lt room], after, Nat.le_refl place⟩

theorem note (begun : Begun origin place slots) (after : origin ≤ place) (slot : Nat) :
    Begun origin place (slots.set! slot (some place)) where
  room := by simpa using begun.room
  first := by
    obtain ⟨first, here, beginning⟩ := begun.first
    have room := begun.room
    by_cases whole : slot = 0
    · subst whole
      exact ⟨place, by simp [Nat.zero_lt_of_lt room], after, Nat.le_refl place⟩
    · exact ⟨first, by simpa [whole] using here, beginning⟩

theorem accept (begun : Begun origin place slots) (within : place ≤ limit) :
    Spans origin limit (slots.set! 1 (some place)) := by
  obtain ⟨first, here, after, before⟩ := begun.first
  have room := begun.room
  refine ⟨first, place, ?_, after, before, within⟩
  simp [bounds?, here, room]

end Begun

namespace Ways.Begun

theorem mono (begun : ways.Begun origin place) (onwards : place ≤ later) : ways.Begun origin later :=
  fun way member => (begun way member).mono onwards

theorem empty (size : Nat) : (Ways.empty size).Begun origin place :=
  fun _ member => absurd member (Array.not_mem_empty _)

theorem push {step : Nat} {seen : Array Bool} (begun : ways.Begun origin place)
    (way : Pattern.Begun origin place slots) : Ways.Begun ⟨ways.queue.push (step, slots), seen⟩ origin place := by
  intro other member
  rcases Array.mem_push.mp member with queued | rfl
  · exact begun other queued
  · exact way

end Ways.Begun

theorem begun_follow (after : origin ≤ place) {fuel step : Nat} (begun : Begun origin place slots)
    (others : ways.Begun origin place) :
    (follow program text place fuel step slots ways).Begun origin place := by
  induction fuel generalizing step slots ways with
  | zero => exact others
  | succ fuel ih =>
      rw [follow]
      split
      · exact others
      · split
        · exact others.push begun
        · exact others.push begun
        · exact ih begun (ih begun others)
        · exact ih (begun.note after _) others
        · split
          · exact ih begun others
          · exact others
        · exact others

theorem begun_advance (after : origin ≤ place) {queue : List (Nat × Slots)}
    (begun : ∀ way ∈ queue, Begun origin place way.2) (others : ways.Begun origin (place + 1)) :
    (advance program text place queue ways).1.Begun origin (place + 1) := by
  induction queue generalizing ways with
  | nil => exact others
  | cons way rest ih =>
      obtain ⟨first, restBegun⟩ := List.forall_mem_cons.mp begun
      rw [advance]
      split
      · exact others
      · split
        · split
          · exact ih restBegun
              (begun_follow (Nat.le_succ_of_le after) (first.mono (Nat.le_succ place)) others)
          · exact ih restBegun others
        · exact ih restBegun others
      · exact ih restBegun others

theorem spans_advance (within : place ≤ limit) {queue : List (Nat × Slots)}
    (begun : ∀ way ∈ queue, Begun origin place way.2) :
    ∀ slots ∈ (advance program text place queue ways).2, Spans origin limit slots := by
  induction queue generalizing ways with
  | nil => exact fun slots found => absurd found (Option.not_mem_none slots)
  | cons way rest ih =>
      obtain ⟨first, restBegun⟩ := List.forall_mem_cons.mp begun
      rw [advance]
      split
      · exact fun slots found => Option.mem_some_iff.mp found ▸ first.accept within
      · split
        · split <;> exact ih restBegun
        · exact ih restBegun
      · exact ih restBegun

theorem spans_searchOn {start slotCount fuel : Nat} {best : Option Slots} (room : 1 < slotCount)
    (after : origin ≤ place) (enough : place + fuel ≤ limit + 1) (others : ways.Begun origin place)
    (known : ∀ slots ∈ best, Spans origin limit slots) :
    ∀ slots ∈ searchOn program start slotCount text fuel place ways best, Spans origin limit slots := by
  induction fuel generalizing place ways best with
  | zero => exact known
  | succ fuel ih =>
      have begun : Ways.Begun (if best.isSome then ways
          else follow program text place (program.size + 1) start
            ((Array.replicate slotCount none).set! 0 (some place)) ways) origin place := by
        split
        · exact others
        · exact begun_follow after (.start room after) others
      rw [searchOn]
      generalize (if best.isSome then ways
        else follow program text place (program.size + 1) start
          ((Array.replicate slotCount none).set! 0 (some place)) ways) = followed at begun
      dsimp only
      split
      · exact known
      · have within : place ≤ limit := by omega
        have queued : ∀ way ∈ followed.queue.toList, Pattern.Begun origin place way.2 :=
          fun way member => begun way (Array.mem_toList_iff.mp member)
        refine ih (Nat.le_succ_of_le after) (by omega)
          (begun_advance after queued (.empty program.size)) ?_
        intro slots found
        rcases Option.or_eq_some_iff.mp found with new | ⟨_, old⟩
        · exact spans_advance within queued slots new
        · exact known slots old

theorem spans_search? (within : place ≤ text.size) (found : pattern.search? text place = some slots) :
    Spans place text.size slots := by
  rw [search?] at found
  have room : 1 < 2 * (pattern.groupCount + 1) := by omega
  exact spans_searchOn room (Nat.le_refl place) (by omega) (.empty pattern.program.size)
    (fun slots absent => absurd absent (Option.not_mem_none slots)) slots found

/-- The spans of the matches from a place on, after one that ended at `lastEnd`: each match is the first one
from the end of the match before, but an empty match right there is passed over. -/
inductive Successive (pattern : Pattern) (text : Array Char) : Nat → Option Nat → List (Nat × Nat) → Prop
  | past {place : Nat} {lastEnd : Option Nat} (beyond : text.size < place) :
      Successive pattern text place lastEnd []
  | none {place : Nat} {lastEnd : Option Nat} (missing : pattern.search? text place = none) :
      Successive pattern text place lastEnd []
  | again {place last : Nat} {slots : Slots} {spans : List (Nat × Nat)} (within : place ≤ text.size)
      (found : pattern.search? text place = some slots) (empty : bounds? slots 0 = some (last, last))
      (behind : Successive pattern text (place + 1) (some last) spans) :
      Successive pattern text place (some last) spans
  | next {place first last : Nat} {lastEnd : Option Nat} {slots : Slots} {spans : List (Nat × Nat)}
      (within : place ≤ text.size) (found : pattern.search? text place = some slots)
      (here : bounds? slots 0 = some (first, last)) (fresh : ¬ (first = last ∧ lastEnd = some last))
      (behind : Successive pattern text last (some last) spans) :
      Successive pattern text place lastEnd ((first, last) :: spans)

/-- The spans of all matches. -/
def spans (pattern : Pattern) (text : Array Char) : List (Nat × Nat) :=
  (pattern.matchList text).map (·.2)

/-- Each step goes on to a further place or has just left a match there, so the steps that are allowed for
are enough. -/
theorem successive_matchesFrom {fuel : Nat} {lastEnd : Option Nat}
    (enough : 2 * text.size + (if lastEnd = some place then 1 else 2) ≤ fuel + 2 * place) :
    pattern.Successive text place lastEnd ((pattern.matchesFrom text fuel place lastEnd).map (·.2)) := by
  induction fuel generalizing place lastEnd with
  | zero =>
      refine .past ?_
      split at enough <;> omega
  | succ fuel ih =>
      rw [matchesFrom]
      split
      · next beyond => exact .past beyond
      · next reached =>
          have within : place ≤ text.size := Nat.not_lt.mp reached
          split
          · next missing => exact .none missing
          · next slots found =>
              obtain ⟨first, last, here, after, onwards, inside⟩ := spans_search? within found
              simp only [here]
              split
              · -- The place passed over makes up for the match that is not counted.
                next empty =>
                  obtain ⟨rfl, rfl⟩ := empty
                  refine .again within found here (ih ?_)
                  split at enough <;> split <;> omega
              · next fresh =>
                  refine .next within found here fresh (ih ?_)
                  rw [if_pos rfl]
                  split at enough
                  · next ended =>
                      rcases Nat.lt_or_eq_of_le (Nat.le_trans after onwards) with further | rfl
                      · omega
                      · exact absurd ⟨Nat.le_antisymm onwards after, ended⟩ fresh
                  · omega

theorem successive_spans (pattern : Pattern) (text : Array Char) :
    pattern.Successive text 0 none (pattern.spans text) := by
  refine successive_matchesFrom ?_
  simp

/-- The characters from a place on are those up to a further place and those from there on. -/
theorem drop_eq_between_append (onwards : place ≤ later) (chars : List Char) :
    chars.drop place = between chars.toArray place later ++ chars.drop later := by
  have rest : chars.drop later = (chars.drop place).drop (later - place) := by
    rw [List.drop_drop, Nat.add_sub_cancel' onwards]
  rw [between, List.extract_toArray, List.extract_eq_take_drop, rest, List.take_append_drop]

theorem length_between {chars : List Char} (within : later ≤ chars.length) :
    (between chars.toArray place later).length = later - place := by
  rw [between, Array.length_toList, Array.size_extract, List.size_toArray, Nat.min_eq_left within]

theorem cutAt_end {chars : List Char} (inside : place ≤ chars.length) :
    CutAt place [] (piecesFrom chars.toArray place []) (chars.drop place) := by
  have whole := drop_eq_between_append inside chars
  rw [List.drop_length, List.append_nil] at whole
  rw [whole]
  exact .last

/-- Where matches follow one another, the text from a place at or before them on is their pieces with the
matches between these. -/
theorem Successive.cutAt {chars : List Char} {lastEnd : Option Nat} {spans : List (Nat × Nat)}
    {found : List (Slots × Nat × Nat)} (successive : pattern.Successive chars.toArray place lastEnd spans)
    (before : origin ≤ place) (inside : origin ≤ chars.length) (here : found.map (·.2) = spans) :
    CutAt origin spans (piecesFrom chars.toArray origin found) (chars.drop origin) := by
  induction successive generalizing origin found with
  | past | none =>
      rw [List.map_eq_nil_iff.mp here]
      exact cutAt_end inside
  | again _ _ _ _ ih => exact ih (Nat.le_succ_of_le before) inside here
  | @next place first last lastEnd slots spans within isFound bounds fresh behind ih =>
      obtain ⟨start, stop, same, after, onwards, inText⟩ := spans_search? within isFound
      cases same.symm.trans bounds
      rw [List.size_toArray] at inText
      match found, here with
      | (_, _, _) :: rest, here =>
          obtain ⟨⟨rfl, rfl⟩, behindIt⟩ := List.cons.inj here
          have reached := Nat.le_trans before after
          rw [drop_eq_between_append reached chars, drop_eq_between_append onwards chars]
          refine .next ?_ ?_ (ih (Nat.le_refl _) inText behindIt)
          · rw [length_between (Nat.le_trans onwards inText), Nat.add_sub_cancel' reached]
          · rw [length_between inText, Nat.add_sub_cancel' onwards]

/-- Splitting takes a text apart at its matches. -/
theorem cutAt_split (pattern : Pattern) (text : String) :
    CutAt 0 (pattern.spans text.toList.toArray) ((pattern.split text).map String.toList) text.toList := by
  have pieces : (pattern.split text).map String.toList =
      piecesFrom text.toList.toArray 0 (pattern.matchList text.toList.toArray) := by
    rw [split]
    exact map_toList_map_ofList _
  rw [pieces]
  exact (successive_spans pattern text.toList.toArray).cutAt (Nat.le_refl 0) (Nat.zero_le _) rfl

end ThreatModel.Pattern
