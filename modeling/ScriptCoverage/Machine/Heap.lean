import ScriptCoverage.Machine.Function
import ScriptCoverage.Pattern.Regex

/-!
The heap: the contents of objects, arrays, functions and regular expressions. Contents never move and never
go away. `Heap.chain` lists an object with its prototypes, and all searches along prototypes go through it.
-/

namespace ScriptCoverage.Machine

structure Heap where
  objects : Array Object := #[]
  arrays : Array (Array Value) := #[]
  functions : Array Function := #[]
  regexes : Array Pattern.Regex := #[]
  deriving Inhabited

namespace Heap

/-! ### Contents -/

def object (h : Heap) (r : ObjectRef) : Object := h.objects[r.index]?.getD {}

def array (h : Heap) (r : ArrayRef) : Array Value := h.arrays[r.index]?.getD #[]

def function (h : Heap) (r : FunctionRef) : Function := h.functions[r.index]?.getD default

def regex (h : Heap) (r : RegexRef) : Pattern.Regex := h.regexes[r.index]?.getD default

def modifyObject (h : Heap) (r : ObjectRef) (f : Object → Object) : Heap :=
  { h with objects := h.objects.modify r.index f }

def modifyArray (h : Heap) (r : ArrayRef) (f : Array Value → Array Value) : Heap :=
  { h with arrays := h.arrays.modify r.index f }

/-- Changes the properties of a function, the only part of it that can change. -/
def modifyProperties (h : Heap) (r : FunctionRef) (f : Object → Object) : Heap :=
  { h with functions := h.functions.modify r.index fun g => { g with properties := f g.properties } }

/-- Moves the position of a regular expression, the only part of it that can change. -/
def setLastIndex (h : Heap) (r : RegexRef) (n : Nat) : Heap :=
  { h with regexes := h.regexes.modify r.index fun x => { x with lastIndex := n } }

/-! ### New contents -/

def addObject (h : Heap) (o : Object) : ObjectRef × Heap :=
  (⟨h.objects.size⟩, { h with objects := h.objects.push o })

def addArray (h : Heap) (items : Array Value) : ArrayRef × Heap :=
  (⟨h.arrays.size⟩, { h with arrays := h.arrays.push items })

def addFunction (h : Heap) (f : Function) : FunctionRef × Heap :=
  (⟨h.functions.size⟩, { h with functions := h.functions.push f })

def addRegex (h : Heap) (x : Pattern.Regex) : RegexRef × Heap :=
  (⟨h.regexes.size⟩, { h with regexes := h.regexes.push x })

/-! ### Prototypes -/

/-- An object and its prototypes, at most `n` of them. -/
def chainWithin (h : Heap) : Nat → Option ObjectRef → List ObjectRef
  | 0, _ | _, none => []
  | n + 1, some r => r :: chainWithin h n (h.object r).proto

/-- An object and its prototypes, the nearest first. No chain is longer than there are objects. -/
def chain (h : Heap) (r : Option ObjectRef) : List ObjectRef := h.chainWithin h.objects.size r

/-- The nearest property with a key on an object and its prototypes. -/
def lookup? (h : Heap) (r : ObjectRef) (key : String) : Option Property :=
  (h.chain (some r)).findSome? fun r => (h.object r).property? key

/-- Whether an object or one of its prototypes has a property. -/
def has (h : Heap) (r : ObjectRef) (key : String) : Bool := (h.lookup? r key).isSome

/-! ### Functions -/

def isConstructorWithin (h : Heap) : Nat → FunctionRef → Bool
  | 0, _ => false
  | n + 1, r =>
    match (h.function r).kind with
    | .script decl _ => !decl.isArrow
    | .native _ => true
    | .bound target _ _ => isConstructorWithin h n target

/-- Whether `new` can be applied to a function. Bindings are as their targets, and no chain of bindings is
longer than there are functions. -/
def isConstructor (h : Heap) (r : FunctionRef) : Bool := h.isConstructorWithin h.functions.size r

def arityWithin (h : Heap) : Nat → FunctionRef → Nat
  | 0, _ => 0
  | n + 1, r =>
    match (h.function r).kind with
    | .script decl _ => decl.params.length
    | .native _ => 0
    | .bound target _ args => arityWithin h n target - args.length

/-- Number of parameters that a function declares, less those that a binding provides. -/
def arity (h : Heap) (r : FunctionRef) : Nat := h.arityWithin h.functions.size r

def unboundWithin (h : Heap) : Nat → FunctionRef → List Value → FunctionRef × List Value
  | 0, r, args => (r, args)
  | n + 1, r, args =>
    match (h.function r).kind with
    | .bound target _ more => unboundWithin h n target (more ++ args)
    | _ => (r, args)

/-- The function under all bindings of a function, and the arguments that it is given when the bound one is
given `args`. -/
def unbound (h : Heap) (r : FunctionRef) (args : List Value) : FunctionRef × List Value :=
  h.unboundWithin h.functions.size r args

end Heap

end ScriptCoverage.Machine
