import ScriptCoverage.Machine.Call

/-!
Runs of whole scripts. `Evaluator.next` makes an evaluator from one for the parts of constructs, and
`Evaluator.ofFuel` does so a number of times, starting from an evaluator that runs nothing.
-/

namespace ScriptCoverage.Machine

variable {σ : Type}

namespace Evaluator

/-- The evaluator that runs constructs whose parts another one runs. -/
def next (ev : Evaluator σ) : Evaluator σ where
  fuel := ev.fuel + 1
  host := ev.host
  expr scope e := ev.evalExpr scope e
  stmt scope labels s := ev.evalStmt scope labels s
  call f this args := ev.evalCall f this args

/-- The evaluator for constructs that nest at most `n` deep and loops of at most `n` rounds. Each level is
made when it is used. -/
def ofFuel (host : Host σ) : Nat → Evaluator σ
  | 0 =>
    { fuel := 0
      host
      expr := fun _ _ => throw .outOfFuel
      stmt := fun _ _ _ => throw .outOfFuel
      call := fun _ _ _ => throw .outOfFuel }
  | n + 1 =>
    { fuel := n + 1
      host
      expr := fun scope e => (next (ofFuel host n)).expr scope e
      stmt := fun scope labels s => (next (ofFuel host n)).stmt scope labels s
      call := fun f this args => (next (ofFuel host n)).call f this args }

/-- Runs the statements of a script. The result is the value of the last expression among them that ran. -/
def script (ev : Evaluator σ) (last : Value) : List Program.Stmt → Run σ Value
  | [] => return last
  | .expression s e :: ss => do
    ev.host.begins globalScope (.expression s e)
    script ev (← ev.expr globalScope e) ss
  | s :: ss => do
    ev.host.begins globalScope s
    match ← ev.stmt globalScope [] s with
    | .normal => script ev last ss
    -- a jump or a `return` at the top level ends the script
    | _ => return last

/-- The name of the text of a script in messages. -/
def scriptName : String := "<eval>"

/-- Runs the text of a script in the global scope. -/
def run (ev : Evaluator σ) (source : String) : Run σ Value := do
  match Source.compile source with
  | .error cause => Run.fail (.badSource scriptName cause)
  | .ok program =>
    Run.hoist globalScope (Program.Declared.ofBody program.body)
    ev.script .undefined program.body

end Evaluator

/-! ### With plenty of fuel -/

/-- Fuel that no run of a machine uses up in a lifetime. -/
def plenty : Nat := Nat.pow 2 60

variable (host : Host σ)

/-- Runs the text of a script. -/
def eval (source : String) : Run σ Value := (Evaluator.ofFuel host plenty).run source

/-- Loads the module that a path names. -/
def require (origin : Option String) (path : String) : Run σ Value := (Evaluator.ofFuel host plenty).require origin path

/-- Calls a value. -/
def call : Caller σ := (Evaluator.ofFuel host plenty).call

/-- Applies `new` to a value. -/
def construct (f : Value) (args : List Value) : Run σ Value := (Evaluator.ofFuel host plenty).construct f args

/-- Reads a property of a value. -/
def getProperty (v : Value) (key : String) : Run σ Value := Run.getProperty (call host) v key

/-- Writes a property of a value. -/
def setProperty (v : Value) (key : String) (new : Value) : Run σ Unit := Run.setProperty (call host) v key new

/-! ### Registering modules -/

/-- Registers a factory in place of the one that was there. The module is then no longer loaded. -/
def register (m : Machine σ) (key : String) (f : Module.Factory) : Machine σ :=
  { m with registry := m.registry.put key f, loaded := m.loaded.erase key }

/-- Registers factories one after the other. -/
def registerAll (m : Machine σ) (fs : List (String × Module.Factory)) : Machine σ :=
  fs.foldl (fun m (key, f) => m.register key f) m

end ScriptCoverage.Machine
