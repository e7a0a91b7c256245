import ScriptCoverage.Machine.Access

/-!
The methods of arrays. Those that call a function for every item work on the items that were there when they
started.
-/

namespace ScriptCoverage.Machine

variable {σ : Type}

/-- The position in a sequence that a value stands for: counted from the end if it is negative, moved into
the sequence if it lies outside, and a default if there is no value. -/
def Heap.relativeIndex (h : Heap) (v : Value) (length default : Nat) : Nat :=
  if v = .undefined then default
  else
    let x := h.number v
    match truncate? x with
    | some n => if n < 0 then (length + n).toNat else min n.toNat length
    | none => if x.isInf && 0 < x then length else 0

def ArrayMethod.name : ArrayMethod → String
  | push => "push"
  | pop => "pop"
  | shift => "shift"
  | join => "join"
  | indexOf => "indexOf"
  | slice => "slice"
  | concat => "concat"
  | forEach => "forEach"
  | map => "map"
  | filter => "filter"

/-- The items that an argument adds to an array that it is appended to. -/
def Heap.spread (h : Heap) : Value → List Value
  | .array r => (h.array r).toList
  | v => [v]

namespace Run

/-- Calls a function with each item, its position and the array, and gathers the results. -/
def callEach (call : Caller σ) (callback this : Value) (r : ArrayRef) : Nat → List Value → Run σ (List Value)
  | _, [] => return []
  | i, v :: vs => do
    let result ← call callback this [v, .ofNat i, .array r]
    return result :: (← callEach call callback this r (i + 1) vs)

/-- The position of the first item from a position on that is the same as a value. -/
def findItem? (items : Array Value) (start : Nat) (v : Value) : Option Nat :=
  (((items.toList.drop start).findIdx? (·.strictEquals v))).map (start + ·)

/-- Runs a method on an array. -/
def onArray (call : Caller σ) (r : ArrayRef) (args : List Value) : ArrayMethod → Run σ Value
  | .push => do
    change (·.modifyArray r (· ++ args.toArray))
    return .ofNat (← see fun h => (h.array r).size)
  | .pop => do
    let last ← see fun h => (h.array r).back?
    change (·.modifyArray r Array.pop)
    return last.getD .undefined
  | .shift => do
    let first ← see fun h => (h.array r)[0]?
    change (·.modifyArray r (·.drop 1))
    return first.getD .undefined
  | .join => see fun h =>
    let separator := match Value.argument args 0 with
      | .undefined => ","
      | v => h.text v
    .string (h.joined separator (h.array r).toList)
  | .indexOf => see fun h =>
    let items := h.array r
    match findItem? items (h.relativeIndex (Value.argument args 1) items.size 0) (Value.argument args 0) with
    | some i => .ofNat i
    | none => .number (-1)
  | .slice => do
    let items ← see fun h =>
      let items := (h.array r).toList
      let start := h.relativeIndex (Value.argument args 0) items.length 0
      let stop := h.relativeIndex (Value.argument args 1) items.length items.length
      (items.take stop).drop start
    newArray items
  | .concat => do newArray (← see fun h => (h.array r).toList ++ args.flatMap h.spread)
  | .forEach => do
    let items ← see fun h => (h.array r).toList
    let _ ← callEach call (Value.argument args 0) (Value.argument args 1) r 0 items
    return .undefined
  | .map => do
    let items ← see fun h => (h.array r).toList
    newArray (← callEach call (Value.argument args 0) (Value.argument args 1) r 0 items)
  | .filter => do
    let items ← see fun h => (h.array r).toList
    let results ← callEach call (Value.argument args 0) (Value.argument args 1) r 0 items
    newArray ((items.zip results).filterMap fun (v, kept) => if kept.isTruthy then some v else none)

/-- Runs a method of arrays on a value. -/
def arrayMethod (call : Caller σ) (m : ArrayMethod) (this : Value) (args : List Value) : Run σ Value :=
  match this with
  | .array r => onArray call r args m
  | _ => refuse (.arrayMethod m.name)

end Run

end ScriptCoverage.Machine
