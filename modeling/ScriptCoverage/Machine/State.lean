import ScriptCoverage.Machine.Prototype
import ScriptCoverage.Module.Factory

/-!
The state of a machine that runs scripts, and runs as changes of it. A run that fails keeps all changes that
it made before. The host of the machine has a state of its own, of any type.
-/

namespace ScriptCoverage

open Machine (Heap Frame ObjectRef)

/-- Everything that a run can change: heap, frames, modules that are registered and modules that are loaded,
the number of script functions that are running, the lines that were logged, and the state of the host. -/
structure Machine (σ : Type) where
  heap : Heap
  frames : Array Frame
  registry : Table Module.Factory := {}
  loaded : Table ObjectRef := {}
  depth : Nat := 0
  console : Array String := #[]
  host : σ

namespace Machine

variable {σ α ρ : Type}

/-! ### Frames -/

/-- The outermost frame. -/
def globalFrame : FrameRef := ⟨0⟩

/-- The scope of code that is in no function. -/
def globalScope : Scope := [globalFrame]

def frame (m : Machine σ) (r : FrameRef) : Frame := m.frames[r.index]?.getD { kind := .global }

/-- Opens a frame inside a scope. -/
def openFrame (m : Machine σ) (kind : FrameKind) (bindings : Table Value) (scope : Scope) : Scope × Machine σ :=
  (⟨m.frames.size⟩ :: scope, { m with frames := m.frames.push { kind, bindings } })

def modifyBindings (m : Machine σ) (r : FrameRef) (f : Table Value → Table Value) : Machine σ :=
  { m with frames := m.frames.modify r.index fun g => { g with bindings := f g.bindings } }

/-! ### Runs -/

/-- Runs of a machine. -/
abbrev Run (σ : Type) := EStateM Interrupt (Machine σ)

namespace Run

def fail (e : RuntimeError) : Run σ α := throw (.failed e)

def refuse (f : TypeFault) : Run σ α := fail (.typeFault f)

/-- Looks at the heap. -/
def see (f : Heap → α) : Run σ α := fun m => .ok (f m.heap) m

/-- Changes the heap. -/
def change (f : Heap → Heap) : Run σ Unit := modify fun m => { m with heap := f m.heap }

/-- Adds something to the heap. -/
def add (f : Heap → ρ × Heap) : Run σ ρ :=
  modifyGet fun m =>
    let (r, heap) := f m.heap
    (r, { m with heap })

/-- Changes the state of the host. -/
def note (f : σ → σ) : Run σ Unit := modify fun m => { m with host := f m.host }

/-- Runs to an error or a result. Only what leaves a run without an outcome goes on. -/
def attempt (x : Run σ α) : Run σ (Except RuntimeError α) := fun m =>
  match x m with
  | .ok a m => .ok (.ok a) m
  | .error (.failed e) m => .ok (.error e) m
  | .error .outOfFuel m => .error .outOfFuel m
  | .error .stopped m => .error .stopped m

/-- Goes on with an error or a result. -/
def resume : Except RuntimeError α → Run σ α
  | .ok a => return a
  | .error e => fail e

/-! ### New values -/

def newObject (o : Object) : Run σ Value := return .object (← add (·.addObject o))

/-- An object without properties. -/
def emptyObject : Run σ Value := newObject { proto := some objectPrototype }

def newArray (items : List Value) : Run σ Value := return .array (← add (·.addArray items.toArray))

def newFunction (f : Function) : Run σ Value := return .function (← add (·.addFunction f))

def newRegex (source flags : String) : Run σ Value :=
  match Pattern.Regex.compile source flags with
  | .ok x => return .regex (← add (·.addRegex x))
  | .error message => fail (.badRegex source message)

/-- An error object with a message. -/
def newError (kind : ErrorKind) (message : String) : Run σ Value :=
  newObject (({ proto := some (errorPrototype kind) } : Object).setHidden "message" (.string message))

/-- Throws a new error object. -/
def raise (kind : ErrorKind) (message : String) : Run σ α := do fail (.thrown (← newError kind message))

/-- The value that a script catches for an error. -/
def caughtValue (e : RuntimeError) : Run σ Value :=
  match e, e.parts? with
  | .thrown v, _ => return v
  | _, some (kind, message) => newError kind message
  | _, none => return .undefined

end Run

end Machine

end ScriptCoverage
