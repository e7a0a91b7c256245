import ScriptCoverage.Machine.Builtin
import ScriptCoverage.Machine.Statement
import ScriptCoverage.Module.Path

/-!
Calls and modules. A call of a script function opens a frame and counts as one level, up to `maxDepth` of
them; however the call ends, the count is afterwards what it was before. `Evaluator.load` runs the factory of
a module unless the module is there already.
-/

namespace ScriptCoverage.Machine

open Program (Func)

variable {σ α : Type}

/-! ### Calls of script functions -/

/-- Most script functions that can be running at one time. -/
def maxDepth : Nat := 64

/-- Runs something one level deeper. -/
def Run.deeper (x : Run σ α) : Run σ α := fun m =>
  let depth := m.depth
  match x { m with depth := depth + 1 } with
  | .ok a m => .ok a { m with depth }
  | .error e m => .error e { m with depth }

/-- Binds parameters to arguments. A parameter without an argument is `undefined`. -/
def bindParams (bindings : Table Value) : List String → List Value → Table Value
  | [], _ => bindings
  | p :: ps, args => bindParams (bindings.put p (args.head?.getD .undefined)) ps args.tail

/-- The frame of a call. A function that is no arrow has a receiver, its own name and its arguments. -/
def Run.enter (f this : Value) (args : List Value) (decl : Func) (scope : Scope) : Run σ Scope := do
  if decl.isArrow then openFrame .arrow (bindParams {} decl.params args) scope
  else
    let named := match decl.name with
      | some name => ({} : Table Value).put name f
      | none => {}
    -- parameters hide the list of arguments, and that hides the name of the function
    let list ← newArray args
    openFrame (.function this) (bindParams (named.put "arguments" list) decl.params args) scope

namespace Evaluator

variable (ev : Evaluator σ)

/-- Runs the body of a function. The expression of an arrow is no statement of a body, so nothing begins. -/
def runBody (scope : Scope) : Func → Run σ Completion
  | .mk _ _ _ _ b => ev.body scope b.body
  | .lambda _ _ e => ev.stmt scope [] (.returnValue e.span (some e))

/-- Calls a script function. -/
def callScript (f this : Value) (args : List Value) (decl : Func) (scope : Scope) : Run σ Value := do
  if maxDepth ≤ (← get).depth then Run.fail .stackOverflow
  else Run.deeper do
    let inner ← Run.enter f this args decl scope
    Run.hoist inner (Program.Declared.ofBody decl.body)
    match ← ev.runBody inner decl with
    | .returned v => return v
    | _ => return .undefined

/-! ### Modules -/

/-- Who asks for a module when no module does. -/
def rootName : String := "<root>"

/-- Runs the body of a factory with its parameters bound. -/
def runFactory (params : List String) (program : Program) (this : Value) (args : List Value) : Run σ Unit := do
  let scope ← Run.openFrame (.function this) (bindParams {} params args) globalScope
  Run.hoist scope (Program.Declared.ofBody program.body)
  -- a `return` at the top of a module just ends it
  let _ ← ev.body scope program.body

/-- What a module exports at present. -/
def exportsOf (h : Heap) (r : ObjectRef) : Value := ((h.object r).get? "exports").getD .undefined

/-- Runs the factory of a module. The module counts as loaded from the start, and no longer if that fails. -/
def runModule (key : String) (factory : Module.Factory) (program : Program) : Run σ Value := do
  let exports ← Run.emptyObject
  let r ← Run.add (·.addObject ((({ proto := some objectPrototype } : Object).set "exports" exports).set "id" (.string key)))
  -- modules that ask for each other in a circle get what is exported so far
  modify fun m => { m with loaded := m.loaded.put key r }
  let require ← Run.newFunction { name := "require", kind := .native (.require (some key)) }
  Run.note (ev.host.loads (.started key))
  match ← Run.attempt (ev.runFactory factory.params program exports [exports, require, .object r]) with
  | .ok _ =>
    Run.note (ev.host.loads (.finished key))
    Run.see (exportsOf · r)
  | .error e =>
    modify fun m => { m with loaded := m.loaded.erase key }
    Run.note (ev.host.loads (.failed key))
    Run.fail e

/-- Gives what a registered module exports, and runs its factory if it is not loaded. -/
def load (key : String) : Run σ Value := do
  let m ← get
  match m.loaded.get? key, m.registry.get? key with
  | some r, _ => return exportsOf m.heap r
  | none, none => Run.fail (.moduleNotFound key rootName)
  | none, some factory =>
    match factory.compile with
    | .ok program => ev.runModule key factory program
    | .error cause => Run.fail (.badSource key cause)

end Evaluator

/-- The key of the module that a path names. -/
def Run.resolve (origin : Option String) (path : String) : Run σ String := do
  match Module.resolve? (← get).registry.contains origin path with
  | some key => return key
  | none => fail (.moduleNotFound path (origin.getD Evaluator.rootName))

namespace Evaluator

variable (ev : Evaluator σ)

/-- Loads the module that a path names. -/
def require (origin : Option String) (path : String) : Run σ Value := do ev.load (← Run.resolve origin path)

/-! ### Calls -/

/-- Calls a function that no script defines. -/
def callNative (this : Value) (args : List Value) : Native → Run σ Value
  | .builtin b => Run.builtin ev.call this args b
  | .require origin =>
    match args with
    | .string path :: _ => ev.require origin path
    | _ => Run.refuse .requirePath
  | .host f => ev.host.call f this args

/-- Calls a value. -/
def evalCall (f this : Value) (args : List Value) : Run σ Value := do
  match f with
  | .function r =>
    match (← Run.see (·.function r)).kind with
    | .script decl scope => ev.callScript f this args decl scope
    | .native n => ev.callNative this args n
    | .bound target this more => ev.call (.function target) this (more ++ args)
  | f => Run.refuse (.notFunction (← Run.see (·.text f)))

end Evaluator

end ScriptCoverage.Machine
