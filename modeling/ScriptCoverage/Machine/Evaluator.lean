import ScriptCoverage.Machine.Access
import ScriptCoverage.Program.Hoist

/-!
What the parts of an evaluator have in common. An evaluator is a record of the ways to run expressions,
statements and calls; each construct of the language is a function of an evaluator for its parts. A loop runs
at most as many rounds as the evaluator has fuel left.
-/

namespace ScriptCoverage.Machine

open Program (Expr Stmt)

variable {σ : Type}

/-- How a statement ends that does not fail. -/
inductive Completion
  | normal
  | returned (v : Value)
  | broke (label : Option String)
  | continued (label : Option String)
  deriving DecidableEq, Inhabited, Repr

/-- What happens to a module when its factory runs. -/
inductive ModuleEvent
  | started (key : String)
  | finished (key : String)
  | failed (key : String)
  deriving DecidableEq, Inhabited, Repr

/-- What surrounds a run: the functions of the host, what the host does when a statement of a body begins, and
what it notes when the factory of a module runs. -/
structure Host (σ : Type) where
  call : HostFunction → Value → List Value → Run σ Value
  begins : Scope → Stmt → Run σ Unit := fun _ _ => return
  loads : ModuleEvent → σ → σ := fun _ h => h

/-- The ways to run the parts of a construct. A statement is given the labels that it carries. -/
structure Evaluator (σ : Type) where
  fuel : Nat
  host : Host σ
  expr : Scope → Expr → Run σ Value
  stmt : Scope → List String → Stmt → Run σ Completion
  call : Caller σ

/-- Makes a function of a declaration in a scope. -/
def Run.closure (scope : Scope) (decl : Program.Func) : Run σ Value :=
  Run.newFunction { name := decl.name.getD "", kind := .script decl scope }

/-! ### Loops -/

/-- What a loop with some labels ends with when a round of its body ends, if it does not go on. -/
def Completion.endsLoop? (labels : List String) : Completion → Option Completion
  | normal | continued none => none
  | broke none => some normal
  | continued (some label) => if labels.contains label then none else some (continued (some label))
  | c => some c

/-- Runs rounds until one says what the loop ends with. -/
def Run.rounds (round : Run σ (Option Completion)) : Nat → Run σ Completion
  | 0 => throw .outOfFuel
  | n + 1 => do
    match ← round with
    | some c => return c
    | none => Run.rounds round n

namespace Evaluator

variable (ev : Evaluator σ)

/-- Runs a loop. -/
def loop (round : Run σ (Option Completion)) : Run σ Completion := Run.rounds round ev.fuel

/-- Whether an expression gives a true value. -/
def holds (scope : Scope) (e : Expr) : Run σ Bool := return (← ev.expr scope e).isTruthy

/-- The value of an expression that may be missing. -/
def valueOf (scope : Scope) : Option Expr → Run σ Value
  | none => return .undefined
  | some e => ev.expr scope e

/-- The text of the value of an expression. -/
def textOf (scope : Scope) (e : Expr) : Run σ String := do
  let v ← ev.expr scope e
  Run.see (·.text v)

/-- The values of expressions, from left to right. -/
def values (scope : Scope) : List Expr → Run σ (List Value)
  | [] => return []
  | e :: es => do
    let v ← ev.expr scope e
    return v :: (← values scope es)

/-- Runs the statements of a body until one does not end normally. -/
def body (scope : Scope) : List Stmt → Run σ Completion
  | [] => return .normal
  | s :: ss => do
    ev.host.begins scope s
    match ← ev.stmt scope [] s with
    | .normal => body scope ss
    | c => return c

end Evaluator

/-! ### Declarations that take effect before a body runs -/

/-- Makes declarations in a scope. -/
def Run.hoist (scope : Scope) : List Program.Declared → Run σ Unit
  | [] => return
  | .variable name :: ds => do
    modify (·.declareVariable scope name)
    Run.hoist scope ds
  | .function name decl :: ds => do
    Run.declare scope name (← Run.closure scope decl)
    Run.hoist scope ds

end ScriptCoverage.Machine
