import ScriptCoverage.Machine.Value
import ScriptCoverage.Table

/-!
Frames hold the bindings of names. A scope is a chain of frames, the innermost first; the last one of every
chain is the global frame.
-/

namespace ScriptCoverage.Machine

/-- The place of a frame. -/
structure FrameRef where
  index : Nat
  deriving DecidableEq, Inhabited, Repr

/-- The frames that a name is looked up in, the innermost first. -/
abbrev Scope := List FrameRef

/-- What a frame belongs to: the whole run, a call, a block that binds names of its own, or a statement that
looks names up in an object. -/
inductive FrameKind
  | global
  | function (this : Value)
  | arrow
  | block
  | object (object : Value)
  deriving DecidableEq, Inhabited, Repr

namespace FrameKind

/-- Whether `var` and function declarations bind their names here. -/
def holdsVariables : FrameKind → Bool
  | global | function _ | arrow => true
  | block | object _ => false

/-- The word for a kind in debug output. -/
def word : FrameKind → String
  | global => "global"
  | function _ => "function"
  | arrow => "arrow"
  | block => "block"
  | object _ => "with"

end FrameKind

structure Frame where
  kind : FrameKind
  bindings : Table Value := {}
  deriving DecidableEq, Inhabited, Repr

end ScriptCoverage.Machine
