import ThreatModel.Pattern.Expr

/-!
Patterns as programs. A program is a table of steps; each says where to go on, and a fork prefers
its first branch.
-/

namespace ThreatModel.Pattern

inductive Step
  | take (set : CharSet) (next : Nat)
  | fork (preferred other : Nat)
  /-- Note the place under a number. -/
  | note (slot next : Nat)
  | look (look : Look) (next : Nat)
  | accept
  | fail
deriving Inhabited

/-- The steps so far, and where to begin. -/
abbrev Compiled := Array Step × Nat

/-- Add a step, and begin with it. -/
def Compiled.begin (steps : Array Step) (step : Step) : Compiled :=
  (steps.push step, steps.size)

/-- A fork that prefers the body when greedy, and the way past it when not. -/
def forkTo (greedy : Bool) (body past : Nat) : Step :=
  if greedy then .fork body past else .fork past body

/-- Put a body in front of what follows, `count` times. -/
def copies (body : Array Step → Nat → Compiled) : Nat → Array Step → Nat → Compiled
  | 0, steps, next => (steps, next)
  | count + 1, steps, next =>
      let (steps, next) := body steps next
      copies body count steps next

/-- Up to `count` further bodies, each leading on or past all others. -/
def optionals (greedy : Bool) (past : Nat) (body : Array Step → Nat → Compiled) :
    Nat → Array Step → Nat → Compiled
  | 0, steps, next => (steps, next)
  | count + 1, steps, next =>
      let (steps, entry) := body steps next
      let (steps, fork) := Compiled.begin steps (forkTo greedy entry past)
      optionals greedy past body count steps fork

/-- A body repeated once or more. -/
def oneOrMore (greedy : Bool) (body : Array Step → Nat → Compiled) (steps : Array Step)
    (next : Nat) : Compiled :=
  let loop := steps.size
  let (steps, entry) := body (steps.push .fail) loop
  (steps.set! loop (forkTo greedy entry next), entry)

/-- A body repeated any number of times. A body that may match nothing is repeated once or more, or
skipped, so that preferring a further round never hides the way past the loop. -/
def anyNumber (greedy neverEmpty : Bool) (body : Array Step → Nat → Compiled)
    (steps : Array Step) (next : Nat) : Compiled :=
  let loop := steps.size
  let (steps, entry) := body (steps.push .fail) loop
  let steps := steps.set! loop (forkTo greedy entry next)
  if neverEmpty then (steps, loop) else .begin steps (forkTo greedy entry next)

mutual

/-- Put the steps of an expression in front of `next`. -/
def compileExpr : Expr → Array Step → Nat → Compiled
  | .empty, steps, next => (steps, next)
  | .set set, steps, next => .begin steps (.take set next)
  | .look look, steps, next => .begin steps (.look look next)
  | .group none body, steps, next => compileExpr body steps next
  | .group (some index) body, steps, next =>
      let (steps, close) := Compiled.begin steps (.note (2 * index + 1) next)
      let (steps, entry) := compileExpr body steps close
      .begin steps (.note (2 * index) entry)
  | .sequence parts, steps, next => compileSequence parts steps next
  | .choice alternatives, steps, next => compileChoice alternatives steps next
  | .repetition least most greedy body, steps, next =>
      let once := compileExpr body
      match most with
      | some most =>
          let (steps, entry) := optionals greedy next once (most - least) steps next
          copies once least steps entry
      | none =>
          if least = 0 then anyNumber greedy (0 < body.leastLength) once steps next
          else
            let (steps, entry) := oneOrMore greedy once steps next
            copies once (least - 1) steps entry

def compileSequence : List Expr → Array Step → Nat → Compiled
  | [], steps, next => (steps, next)
  | part :: rest, steps, next =>
      let (steps, entry) := compileSequence rest steps next
      compileExpr part steps entry

def compileChoice : List Expr → Array Step → Nat → Compiled
  | [], steps, _ => .begin steps .fail
  | [last], steps, next => compileExpr last steps next
  | first :: rest, steps, next =>
      let (steps, others) := compileChoice rest steps next
      let (steps, entry) := compileExpr first steps next
      .begin steps (.fork entry others)

end

/-- The program of an expression. -/
def compileProgram (expr : Expr) : Compiled :=
  let (steps, accept) := Compiled.begin #[] .accept
  compileExpr expr steps accept

end ThreatModel.Pattern
