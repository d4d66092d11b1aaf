import ThreatModel.Pattern.Escape

/-!
Sets in brackets: members, ranges, sets inside sets, and the operators between them. An operator
takes all that was read before it as its left side.
-/

namespace ThreatModel.Pattern

/-- The ways two sets in brackets are joined. -/
inductive SetOperator
  | intersection
  | difference
  | symmetricDifference

/-- Join two sets; where case is ignored, each is closed under case first. -/
def SetOperator.join (operator : SetOperator) (flags : Flags) (left right : CharSet) : CharSet :=
  let left := flags.close false left
  let right := flags.close false right
  match operator with
  | .intersection => .intersection left right
  | .difference => .difference left right
  | .symmetricDifference => .symmetricDifference left right

/-- The set read so far, joined to the one on the left of the operator before it. -/
def joinPending (flags : Flags) (pending : Option (SetOperator × CharSet)) (set : CharSet) :
    CharSet :=
  match pending with
  | none => set
  | some (operator, left) => operator.join flags left set

/-- A named ASCII class such as `[:alpha:]`, after its bracket. -/
def readAsciiClass (flags : Flags) : List Char → Option (CharSet × List Char)
  | ':' :: rest => do
      let (negated, rest) := match rest with
        | '^' :: rest => (true, rest)
        | _ => (false, rest)
      let name := rest.takeWhile (· != ':')
      match rest.dropWhile (· != ':') with
      | ':' :: ']' :: rest =>
          let found ← CharSet.asciiClasses.find? (·.1 == String.ofList name)
          some (flags.close negated (.ranges found.2), rest)
      | _ => none
  | _ => none

/-- One member of a set in brackets, before it is known whether it begins a range. -/
def readMember (flags : Flags) : List Char → Option (Atom × List Char)
  | '\\' :: rest => readEscape flags rest
  | c :: rest => some (.literal c, rest)
  | [] => none

/-- The number of a member that is one character. -/
def memberPoint? (flags : Flags) : Atom → Option Nat
  | .literal c => if flags.unicode || c.toNat < 0x80 then some c.toNat else none
  | .byte value => some value
  | _ => none

/-- The set of a member that begins no range. -/
def memberSet? (flags : Flags) : Atom → Option CharSet
  | .set set => some set
  | .look _ => none
  | atom => (memberPoint? flags atom).map .single

/-- A member or a range of members. -/
def readRange (flags : Flags) (chars : List Char) : Option (CharSet × List Char) := do
  let (first, rest) ← readMember flags chars
  match flags.skip rest with
  | [] => none
  | '-' :: after =>
      match flags.skip after with
      | [] => none
      | ']' :: _ => (memberSet? flags first).map (·, '-' :: after)
      | '-' :: _ => (memberSet? flags first).map (·, '-' :: after)
      | upper =>
          let (last, rest) ← readMember flags upper
          let low ← memberPoint? flags first
          let high ← memberPoint? flags last
          if low ≤ high then some (.ranges [(low, high)], rest) else none
  | rest => (memberSet? flags first).map (·, rest)

/-- Hyphens that open a set stand for themselves. -/
def readHyphens (flags : Flags) : Nat → CharSet → List Char → CharSet × List Char
  | 0, set, chars => (set, chars)
  | fuel + 1, set, '-' :: rest =>
      readHyphens flags fuel (.union set (.single '-'.toNat)) (flags.skip rest)
  | _, set, chars => (set, chars)

mutual

/-- A set in brackets, after its opening bracket. -/
def readBrackets (flags : Flags) : Nat → List Char → Option (CharSet × List Char)
  | 0, _ => none
  | fuel + 1, chars =>
      let chars := flags.skip chars
      let (negated, chars) := match chars with
        | '^' :: rest => (true, flags.skip rest)
        | _ => (false, chars)
      let (set, afterHyphens) := readHyphens flags (chars.length + 1) .empty chars
      let opened := match afterHyphens with
        | ']' :: rest =>
            if set.rangeCount = 0 then (CharSet.single ']'.toNat, flags.skip rest)
            else (set, afterHyphens)
        | _ => (set, afterHyphens)
      (readSet flags fuel none opened.1 opened.2).map fun (set, rest) =>
        (flags.close negated set, rest)

/-- The members of a set up to its closing bracket. -/
def readSet (flags : Flags) : Nat → Option (SetOperator × CharSet) → CharSet → List Char →
    Option (CharSet × List Char)
  | 0, _, _, _ => none
  | fuel + 1, pending, set, chars =>
      match flags.skip chars with
      | [] => none
      | '[' :: rest =>
          match readAsciiClass flags rest with
          | some (found, rest) => readSet flags fuel pending (.union set found) rest
          | none => do
              let (inner, rest) ← readBrackets flags fuel rest
              readSet flags fuel pending (.union set inner) rest
      | ']' :: rest => some (joinPending flags pending set, rest)
      | '&' :: '&' :: rest =>
          readSet flags fuel (some (.intersection, joinPending flags pending set)) .empty rest
      | '-' :: '-' :: rest =>
          readSet flags fuel (some (.difference, joinPending flags pending set)) .empty rest
      | '~' :: '~' :: rest =>
          readSet flags fuel (some (.symmetricDifference, joinPending flags pending set)) .empty
            rest
      | chars => do
          let (found, rest) ← readRange flags chars
          readSet flags fuel pending (.union set found) rest

end

end ThreatModel.Pattern
