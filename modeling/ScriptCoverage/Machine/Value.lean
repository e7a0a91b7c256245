import ScriptCoverage.Number.Binary

/-!
Values that scripts compute with. Primitive values stand for themselves; objects, arrays, functions and
regular expressions are places in a heap, so that two values are the same one iff their places are equal.
-/

namespace ScriptCoverage.Machine

/-! ### Places -/

/-- The place of an object. -/
structure ObjectRef where
  index : Nat
  deriving DecidableEq, Inhabited, Repr

/-- The place of an array. -/
structure ArrayRef where
  index : Nat
  deriving DecidableEq, Inhabited, Repr

/-- The place of a function. -/
structure FunctionRef where
  index : Nat
  deriving DecidableEq, Inhabited, Repr

/-- The place of a regular expression. -/
structure RegexRef where
  index : Nat
  deriving DecidableEq, Inhabited, Repr

/-! ### Values -/

inductive Value
  | undefined
  | null
  | bool (b : Bool)
  | number (x : Float)
  | string (s : String)
  | object (r : ObjectRef)
  | array (r : ArrayRef)
  | function (r : FunctionRef)
  | regex (r : RegexRef)
  deriving DecidableEq, Inhabited, Repr

namespace Value

/-- What the operator `typeof` says. -/
def typeName : Value → String
  | undefined => "undefined"
  | null | object _ | array _ | regex _ => "object"
  | bool _ => "boolean"
  | number _ => "number"
  | string _ => "string"
  | function _ => "function"

/-- The class that the default text of a value names. -/
def className : Value → String
  | undefined => "Undefined"
  | null => "Null"
  | bool _ => "Boolean"
  | number _ => "Number"
  | string _ => "String"
  | object _ => "Object"
  | array _ => "Array"
  | function _ => "Function"
  | regex _ => "RegExp"

def isFunction : Value → Bool
  | function _ => true
  | _ => false

def isArray : Value → Bool
  | array _ => true
  | _ => false

/-- Whether a value is a place in the heap. -/
def isObject : Value → Bool
  | object _ | array _ | function _ | regex _ => true
  | undefined | null | bool _ | number _ | string _ => false

/-- Whether a value is `undefined` or `null`. -/
def isNullish : Value → Bool
  | undefined | null => true
  | _ => false

/-- Whether a value counts as true where a script asks for one or the other. -/
def isTruthy : Value → Bool
  | undefined | null => false
  | bool b => b
  | number x => x != 0 && !x.isNaN
  | string s => s != ""
  | object _ | array _ | function _ | regex _ => true

/-- The text of a string value. -/
def text? : Value → Option String
  | string s => some s
  | _ => none

/-- The number of a number value. -/
def number? : Value → Option Float
  | number x => some x
  | _ => none

/-- The operator `===`: numbers by value, so that the two zeros are equal and what is no number equals
nothing, all else by identity. -/
def strictEquals : Value → Value → Bool
  | number x, number y => x == y
  | a, b => a = b

/-- A number of things as a value. -/
def ofNat (n : Nat) : Value := number (ofWhole n)

/-- The value of an argument that may be missing. -/
def argument (args : List Value) (i : Nat) : Value := args[i]?.getD undefined

end Value

end ScriptCoverage.Machine
