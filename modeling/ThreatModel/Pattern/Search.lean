import ThreatModel.Pattern.Program

/-!
Searching. All ways to match are followed side by side, in order of preference, one character at a
time. The leftmost match wins, and of those that begin there the preferred one.
-/

namespace ThreatModel.Pattern

/-- The places noted by a match, each group's beginning and end in turn; the whole match is group
zero. -/
abbrev Slots := Array (Option Nat)

/-- The character before a place. -/
def charBefore? (text : Array Char) (place : Nat) : Option Char :=
  if place = 0 then none else text[place - 1]?

def isWordChar (ascii : Bool) (c : Option Char) : Bool :=
  match c with
  | some c => (if ascii then CharSet.asciiWord else CharSet.word).contains c.toNat
  | none => false

/-- The condition holds at a place. -/
def Look.holds (look : Look) (text : Array Char) (place : Nat) : Bool :=
  let before := charBefore? text place
  let after := text[place]?
  match look with
  | .textStart => before.isNone
  | .textEnd => after.isNone
  | .lineStart => before.isNone || before == some '\n'
  | .lineEnd => after.isNone || after == some '\n'
  | .lineStartAny =>
      before.isNone || before == some '\n' || (before == some '\r' && after != some '\n')
  | .lineEndAny =>
      after.isNone || after == some '\r' || (after == some '\n' && before != some '\r')
  | .wordBoundary ascii => isWordChar ascii before != isWordChar ascii after
  | .noWordBoundary ascii => isWordChar ascii before == isWordChar ascii after
  | .wordStart ascii => !isWordChar ascii before && isWordChar ascii after
  | .wordEnd ascii => isWordChar ascii before && !isWordChar ascii after
  | .wordStartHalf ascii => !isWordChar ascii before
  | .wordEndHalf ascii => !isWordChar ascii after

/-- The ways followed at a place, preferred ones first, and the steps they have come through. -/
structure Ways where
  queue : Array (Nat × Slots)
  seen : Array Bool

def Ways.empty (size : Nat) : Ways := ⟨#[], Array.replicate size false⟩

/-- Follow a way up to the steps that take a character or accept. A step that a preferred way has
come through is not followed again. -/
def follow (program : Array Step) (text : Array Char) (place : Nat) :
    Nat → Nat → Slots → Ways → Ways
  | 0, _, _, ways => ways
  | fuel + 1, step, slots, ways =>
      if ways.seen[step]?.getD true then ways
      else
        let ways := { ways with seen := ways.seen.set! step true }
        match program[step]? with
        | some (.take _ _) => { ways with queue := ways.queue.push (step, slots) }
        | some .accept => { ways with queue := ways.queue.push (step, slots) }
        | some (.fork preferred other) =>
            follow program text place fuel other slots
              (follow program text place fuel preferred slots ways)
        | some (.note slot next) =>
            follow program text place fuel next (slots.set! slot (some place)) ways
        | some (.look look next) =>
            if look.holds text place then follow program text place fuel next slots ways
            else ways
        | _ => ways

/-- Take the character at a place along every way. A way that accepts ends the ways after it. -/
def advance (program : Array Step) (text : Array Char) (place : Nat) :
    List (Nat × Slots) → Ways → Ways × Option Slots
  | [], ways => (ways, none)
  | (step, slots) :: rest, ways =>
      match program[step]? with
      | some .accept => (ways, some (slots.set! 1 (some place)))
      | some (.take set next) =>
          match text[place]? with
          | some c =>
              if set.contains c.toNat then
                advance program text place rest
                  (follow program text (place + 1) (program.size + 1) next slots ways)
              else advance program text place rest ways
          | none => advance program text place rest ways
      | _ => advance program text place rest ways

/-- Search on from a place, with the ways followed there and the best match so far. -/
def searchOn (program : Array Step) (start slotCount : Nat) (text : Array Char) :
    Nat → Nat → Ways → Option Slots → Option Slots
  | 0, _, _, best => best
  | fuel + 1, place, ways, best =>
      let ways :=
        if best.isSome then ways
        else
          follow program text place (program.size + 1) start
            ((Array.replicate slotCount none).set! 0 (some place)) ways
      if ways.queue.isEmpty && best.isSome then best
      else
        let (next, found) := advance program text place ways.queue.toList (.empty program.size)
        searchOn program start slotCount text fuel (place + 1) next (found.or best)

end ThreatModel.Pattern
