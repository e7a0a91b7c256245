import ScriptCoverage.Machine.Error
import ScriptCoverage.Machine.Frame
import ScriptCoverage.Machine.Object
import ScriptCoverage.Program.Tree

/-!
Functions: those that a script defines, those that are there from the start, those that the host provides,
and those that bind a receiver and arguments of another one.
-/

namespace ScriptCoverage.Machine

/-! ### Functions that are there from the start -/

inductive ArrayMethod
  | push | pop | shift | join | indexOf | slice | concat | forEach | map | filter
  deriving DecidableEq, Inhabited, Repr

inductive StringMethod
  | toString | charAt | charCodeAt | indexOf | slice | substring | toUpperCase | toLowerCase | trim | split | replace
  deriving DecidableEq, Inhabited, Repr

/-- What a function that is there from the start does. -/
inductive Builtin
  | hasOwnProperty
  | classText
  | receiver
  | ownText
  | call
  | apply
  | bind
  | array (m : ArrayMethod)
  | string (m : StringMethod)
  | numberText
  | fixedText
  | regexTest
  | regexExec
  | log
  | makeObject
  | keys
  | create
  | getPrototypeOf
  | makeFunction
  | makeArray
  | isArray
  | makeString
  | makeNumber
  | makeRegex
  | makeError (kind : ErrorKind)
  | makeBoolean
  | isNaN
  | parseFloat
  | parseInt
  deriving DecidableEq, Inhabited, Repr

/-! ### All functions -/

/-- A function of the host: the recorder of a session, or one that the host knows by name. -/
inductive HostFunction
  | recorder (session : Nat)
  | named (name : String)
  deriving DecidableEq, Inhabited, Repr

/-- A function that no script defines. `require` loads modules for a module, or for none. -/
inductive Native
  | builtin (b : Builtin)
  | require (origin : Option String)
  | host (f : HostFunction)
  deriving DecidableEq, Inhabited, Repr

inductive FunctionKind
  | script (decl : Program.Func) (scope : Scope)
  | native (n : Native)
  | bound (target : FunctionRef) (this : Value) (args : List Value)
  deriving Inhabited

/-- A function with a name, which need not be the one it was declared by, and properties of its own. -/
structure Function where
  name : String
  kind : FunctionKind
  properties : Object := {}
  deriving Inhabited

/-- Whether a function gets a prototype for what it constructs when it is first asked for one. -/
def FunctionKind.hasOwnPrototype : FunctionKind → Bool
  | script decl _ => !decl.isArrow
  | native _ | bound .. => false

end ScriptCoverage.Machine
