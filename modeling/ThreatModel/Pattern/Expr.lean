import ThreatModel.Pattern.CharSet

/-!
Patterns as trees: characters, choices in order of preference, repetitions, groups, and conditions
on a place in the text.
-/

namespace ThreatModel.Pattern

/-- A condition on the characters around a place. -/
inductive Look
  | textStart
  | textEnd
  | lineStart
  | lineEnd
  /-- After a line break, `\r\n` counting as one. -/
  | lineStartAny
  | lineEndAny
  | wordBoundary (ascii : Bool)
  | noWordBoundary (ascii : Bool)
  | wordStart (ascii : Bool)
  | wordEnd (ascii : Bool)
  | wordStartHalf (ascii : Bool)
  | wordEndHalf (ascii : Bool)
deriving DecidableEq, Repr

inductive Expr
  | empty
  | set (set : CharSet)
  | look (look : Look)
  | group (index : Option Nat) (body : Expr)
  | sequence (parts : List Expr)
  /-- Earlier alternatives are preferred. -/
  | choice (alternatives : List Expr)
  /-- At least `least` times, at most `most` times where it is given; as often as possible when
  `greedy`. -/
  | repetition (least : Nat) (most : Option Nat) (greedy : Bool) (body : Expr)
deriving Inhabited

namespace Expr

mutual

/-- The fewest characters that a match has. -/
def leastLength : Expr → Nat
  | .empty => 0
  | .set _ => 1
  | .look _ => 0
  | .group _ body => leastLength body
  | .sequence parts => leastLengthSum parts
  | .choice alternatives => leastLengthMin alternatives
  | .repetition least _ _ body => least * leastLength body

def leastLengthSum : List Expr → Nat
  | [] => 0
  | part :: rest => leastLength part + leastLengthSum rest

def leastLengthMin : List Expr → Nat
  | [] => 0
  | [last] => leastLength last
  | first :: rest => min (leastLength first) (leastLengthMin rest)

end

mutual

/-- How deep groups, repetitions, sequences and choices are nested. -/
def depth : Expr → Nat
  | .empty => 0
  | .set _ => 0
  | .look _ => 0
  | .group _ body => depth body + 1
  | .sequence parts => deepest parts + 1
  | .choice alternatives => deepest alternatives + 1
  | .repetition _ _ _ body => depth body + 1

def deepest : List Expr → Nat
  | [] => 0
  | part :: rest => max (depth part) (deepest rest)

end

mutual

/-- An estimate of the memory that the compiled pattern takes. -/
def cost : Expr → Nat
  | .empty => 32
  | .set chars => 32 * (chars.rangeCount + 1)
  | .look _ => 32
  | .group _ body => cost body + 64
  | .sequence parts => costSum parts
  | .choice alternatives => costSum alternatives + 32
  | .repetition least most _ body =>
      (max (max least 1) (most.getD 0)) * (cost body + 32)

def costSum : List Expr → Nat
  | [] => 0
  | part :: rest => cost part + costSum rest

end

end Expr

end ThreatModel.Pattern
