import ScriptCoverage.Coverage.Config
import ScriptCoverage.Coverage.Recorder
import ScriptCoverage.Coverage.Selection

/-!
Sessions: a session instruments the modules of a component and counts what of them runs. `Session.start`
exposes a recorder, prepares the modules one after the other, and registers their new factories when all of
them are ready; if one of them fails it takes the recorder back.
-/

namespace ScriptCoverage

open Machine (Value Run)

/-- A session under way: its component, the global name of its recorder, and its number in the ledger. -/
structure Session where
  component : String
  recorderName : String
  number : Nat
  deriving DecidableEq, Inhabited, Repr

/-! ### Modules of a component -/

/-- Deepest nesting of a module that is instrumented, one level less than of one that runs: a probe
inside the deepest statement still fits. -/
def instrumentedNesting : Nat := Source.Script.maxNesting - 1

/-- Reads the text of a module. -/
def Record.ofFactory (component key : String) (f : Module.Factory) : Except CoverageError Record :=
  match Source.Script.parseWithLimit f.source instrumentedNesting with
  | .ok t => .ok (.ofScript key component f.source t)
  | .error cause => .error (.parse key cause)

/-- The factories of a component's own modules with their keys in ascending order. -/
def selectFactories (registry : Table Module.Factory) (component depsDir : String) : List (String × Module.Factory) :=
  (selectKeys component depsDir registry.sortedKeys).filterMap fun key => (registry.get? key).map (key, ·)

/-- The records of modules up to the first one that cannot be read. -/
def collectFrom (component : String) : List (String × Module.Factory) → Except CoverageError (List Record)
  | [] => .ok []
  | (key, f) :: fs => do
    let r ← Record.ofFactory component key f
    return r :: (← collectFrom component fs)

/-- The records of a component's own modules. -/
def collect (registry : Table Module.Factory) (component depsDir : String) : Except CoverageError (List Record) :=
  collectFrom component (selectFactories registry component depsDir)

/-- The factory for the instrumented text of a module, with the parameters that the loader provides. -/
def Record.factory (r : Record) : Except CoverageError Module.Factory :=
  (Module.Factory.ofBody Module.Factory.loaderParams r.instrumented).mapError fun f =>
    .runtime (.badFactory f.message)

namespace Session

variable {τ : Type}

/-! ### Starting -/

/-- Binds a global name to a new function of the host. -/
def bindHostFunction (m : Machine τ) (name : String) (f : Machine.HostFunction) : Machine τ :=
  let (r, heap) := m.heap.addFunction { name, kind := .native (.host f) }
  ({ m with heap } : Machine τ).bind Machine.globalFrame name (.function r)

/-- What the host does to a machine on the way to a session. A failure keeps all changes made before it. -/
abbrev Setup (τ : Type) := EStateM CoverageError (Machine (Ledger τ))

/-- Exposes a recorder for a new and empty table of the ledger. The result is the number of the table. -/
def expose (name : String) : Setup τ Nat := modifyGet fun m =>
  let number := m.host.tables.size
  let m := bindHostFunction m name (.recorder number)
  (number, { m with host := { m.host with tables := m.host.tables.push {} } })

/-- Empties the table of a session and takes its recorder out of the global names. -/
def withdraw (name : String) (number : Nat) : Setup τ Unit := modify fun m =>
  ({ m with host := Recorder.setTable number {} m.host } : Machine (Ledger τ)).unbind Machine.globalFrame name

/-- Puts a record into the table of a session. -/
def enter (number : Nat) (r : Record) : Setup τ Unit := modify fun m =>
  { m with host := Recorder.setTable number ((Recorder.table m.host number).put r.key r) m.host }

/-- Instruments modules, enters their records and makes their factories, one module after the other. -/
def prepare (component : String) (recorder : Identifier) (number : Nat) :
    List (String × Module.Factory) → Setup τ (List (String × Module.Factory))
  | [] => return []
  | (key, f) :: fs => do
    let r := (← MonadExcept.ofExcept (Record.ofFactory component key f)).cover recorder
    let f ← MonadExcept.ofExcept r.factory
    enter number r
    return (r.key, f) :: (← prepare component recorder number fs)

/-- Registers factories in place of those that were there. -/
def patch (factories : List (String × Module.Factory)) : Setup τ Unit := modify (·.registerAll factories)

/-- Starts a session, with a name for the recorder in case that the settings have none. -/
def start (c : Config) (generatedName : String) : Setup τ Session := do
  let name := c.recorderName.getD generatedName
  let recorder ← MonadExcept.ofExcept ((Source.checkIdentifier name).mapError fun e => .invalidName name e.message)
  if (← get).isBound Machine.globalFrame name then throw (.nameTaken name)
  -- the recorder is there before the modules are ready, and is taken back if one of them fails
  let number ← expose name
  let modules := selectFactories (← get).registry c.component c.depsDir
  let factories ← tryCatch (prepare c.component recorder number modules) fun e => do
    withdraw name number
    throw e
  patch factories
  return ⟨c.component, name, number⟩

/-! ### Under way -/

variable (s : Session)

/-- The records of the session's modules. -/
def table (l : Ledger τ) : Table Record := Recorder.table l s.number

def module? (l : Ledger τ) (key : String) : Option Record := (s.table l).get? key

/-- The records in ascending order of their keys. -/
def modules (l : Ledger τ) : List Record := (s.table l).sortedValues

def keys (l : Ledger τ) : List String := (s.table l).sortedKeys

def summary (l : Ledger τ) : Summary := .sum ((s.modules l).map Record.summary)

/-- Counts a run of a range directly, without a script. -/
def record (l : Ledger τ) (key : String) (r : Span) : Except CoverageError (Nat × Ledger τ) :=
  (Recorder.record (s.table l) key r).map fun (n, t) => (n, Recorder.setTable s.number t l)

/-- Counts what the arguments of a call of the recorder name. -/
def recordArgs (l : Ledger τ) (args : List Value) : Except CoverageError (Nat × Ledger τ) :=
  (Recorder.recordArgs (s.table l) args).map fun (n, t) => (n, Recorder.setTable s.number t l)

end Session

end ScriptCoverage
