import ScriptCoverage.Pattern.Size

/-!
Patterns as code for a walk over a text. Each instruction names the ones that follow it, the preferred one
first, so the order of preference of matches is that of the paths through the code.
-/

namespace ScriptCoverage.Pattern

open Unicode (CodeSet)

inductive Instruction
  | take (s : CodeSet) (next : Nat)
  | look (l : Look) (next : Nat)
  | save (slot next : Nat)
  | fork (first second : Nat)
  | accept
  deriving Inhabited, Repr

/-- Code with the place where it starts. -/
structure Code where
  instructions : Array Instruction
  start : Nat
  groups : Nat
  deriving Inhabited, Repr

namespace Code

abbrev Build := StateM (Array Instruction)

/-- Adds an instruction and gives its place. -/
def emit (i : Instruction) : Build Nat := modifyGet fun code => (code.size, code.push i)

/-- Fills a place that was held free. -/
def fill (place : Nat) (i : Instruction) : Build Unit := modify fun code => code.setIfInBounds place i

def fork (greedy : Bool) (inside outside : Nat) : Instruction :=
  if greedy then .fork inside outside else .fork outside inside

/-- Runs a construction a number of times, each time in front of what it gave before. -/
def inFront (build : Nat → Build Nat) : Nat → Nat → Build Nat
  | 0, next => return next
  | n + 1, next => do inFront build n (← build next)

/-- One or more times. -/
def loop (greedy : Bool) (build : Nat → Build Nat) (next : Nat) : Build (Nat × Nat) := do
  -- a place is held free, because the code that is repeated leads back to it
  let place ← emit .accept
  let inside ← build place
  fill place (fork greedy inside next)
  return (place, inside)

/-- Code for a pattern in front of the code at `next`. What may match the empty text repeats as one or more
times or not at all, which keeps the order of preference. -/
def ofNode : Node → Nat → Build Nat
  | .empty, next => return next
  | .set s, next => emit (.take s next)
  | .look l, next => emit (.look l next)
  | .group i n, next => do
    let close ← emit (.save (2 * i + 1) next)
    let inside ← ofNode n close
    emit (.save (2 * i) inside)
  | .seq a b, next => do ofNode a (← ofNode b next)
  | .alt a b, next => do
    let first ← ofNode a next
    let second ← ofNode b next
    emit (.fork first second)
  | .repetition 0 none greedy n, next => do
    let (place, inside) ← loop greedy (ofNode n) next
    if n.consumes then return place else emit (fork greedy inside next)
  | .repetition (min + 1) none greedy n, next => do
    let (_, inside) ← loop greedy (ofNode n) next
    inFront (ofNode n) min inside
  | .repetition min (some max) greedy n, next => do
    let optional (following : Nat) : Build Nat := do
      let inside ← ofNode n following
      emit (fork greedy inside next)
    inFront (ofNode n) min (← inFront optional (max - min) next)

/-- The code of a pattern, with the whole match as group zero; patterns that are too large have none. -/
def compile? (n : Node) : Option Code :=
  if n.isTooLarge then none
  else
    let (start, code) := (ofNode (.group 0 n) 0).run #[.accept]
    some ⟨code, start, n.groupCount⟩

end Code

end ScriptCoverage.Pattern
