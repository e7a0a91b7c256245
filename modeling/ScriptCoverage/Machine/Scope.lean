import ScriptCoverage.Machine.State

/-!
Names and scopes. There are two ways to find a name. `Machine.lookup?` and `Machine.assign` see the bindings
of all frames, and `Machine.resolve?` passes over those of object frames and asks their objects instead;
where a scope has no object frame the two agree.
-/

namespace ScriptCoverage.Machine

variable {σ : Type}

/-- The outermost frame of a scope. -/
def rootOf (scope : Scope) : FrameRef := scope.getLast?.getD globalFrame

/-! ### Bindings of one frame -/

def binding? (m : Machine σ) (r : FrameRef) (name : String) : Option Value := (m.frame r).bindings.get? name

def isBound (m : Machine σ) (r : FrameRef) (name : String) : Bool := (m.frame r).bindings.contains name

/-- Binds a name in a frame. -/
def bind (m : Machine σ) (r : FrameRef) (name : String) (v : Value) : Machine σ := m.modifyBindings r (·.put name v)

/-- Takes a binding out of a frame. -/
def unbind (m : Machine σ) (r : FrameRef) (name : String) : Machine σ := m.modifyBindings r (·.erase name)

/-! ### Declarations -/

/-- The frame that holds the variables declared in a scope. -/
def variableFrame (m : Machine σ) (scope : Scope) : FrameRef :=
  (scope.find? fun r => (m.frame r).kind.holdsVariables).getD (rootOf scope)

/-- Binds a name in the innermost frame of a scope. -/
def declare (m : Machine σ) (scope : Scope) (name : String) (v : Value) : Machine σ :=
  m.bind (scope.head?.getD globalFrame) name v

/-- Binds a name where the variables of a scope are, unless it is bound there. -/
def declareVariable (m : Machine σ) (scope : Scope) (name : String) : Machine σ :=
  let r := m.variableFrame scope
  if m.isBound r name then m else m.bind r name .undefined

/-! ### Names in plain scopes -/

/-- The nearest binding of a name. -/
def lookup? (m : Machine σ) (scope : Scope) (name : String) : Option Value := scope.findSome? (m.binding? · name)

/-- Gives the nearest binding of a name a value. A name without one is bound in the outermost frame. -/
def assign (m : Machine σ) (scope : Scope) (name : String) (v : Value) : Machine σ :=
  m.bind ((scope.find? (m.isBound · name)).getD (rootOf scope)) name v

/-- The receiver of the innermost call of a function that is no arrow. -/
def receiver (m : Machine σ) (scope : Scope) : Value :=
  (scope.findSome? fun r => match (m.frame r).kind with
    | .function this => some this
    | _ => none).getD .undefined

/-! ### Names in scopes with objects -/

/-- Where a name was found: bound in the innermost frame of a scope, or as a property of an object. -/
inductive Resolved
  | binding (scope : Scope)
  | property (object : Value)
  deriving DecidableEq, Inhabited, Repr

/-- Where a name is found, given which values have which properties. -/
def resolveWith? (m : Machine σ) (has : Value → String → Bool) : Scope → String → Option Resolved
  | [], _ => none
  | r :: outer, name =>
    match (m.frame r).kind with
    | .object v => if has v name then some (.property v) else resolveWith? m has outer name
    | _ => if m.isBound r name then some (.binding (r :: outer)) else resolveWith? m has outer name

/-- Where a name is found. -/
def resolve? (m : Machine σ) (scope : Scope) (name : String) : Option Resolved :=
  m.resolveWith? m.heap.hasProperty scope name

end ScriptCoverage.Machine
