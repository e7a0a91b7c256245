import ScriptCoverage.Machine.Builtin.Array
import ScriptCoverage.Machine.Builtin.Replace
import ScriptCoverage.Unicode.Case

/-!
The methods of strings, which work on the texts of all values but `undefined` and `null`. Positions count
units of sixteen bits.
-/

namespace ScriptCoverage.Machine

variable {σ : Type}

/-- The unit at the position that a number stands for. -/
def unitAt? (text : String) (x : Float) : Option UInt16 :=
  match truncate? x with
  | some n => if n < 0 then none else Text.unitAt? text n.toNat
  | none => if x.isNaN then Text.unitAt? text 0 else none

/-- The position in a sequence that a value stands for, moved into the sequence if it lies outside. -/
def Heap.clampedIndex (h : Heap) (v : Value) (length default : Nat) : Nat :=
  if v = .undefined then default
  else
    let x := h.number v
    match truncate? x with
    | some n => min n.toNat length
    | none => if x.isInf && 0 < x then length else 0

namespace Run

/-- The texts of the parts of a text between separators. -/
def splitText (text : String) (separator : Value) : Run σ (List String) := do
  match separator with
  | .undefined => return [text]
  | .regex r =>
    let x ← see (·.regex r)
    return (x.code.split text).map fun s => (s.slice? text).getD ""
  | v =>
    let separator ← see (·.text v)
    if separator = "" then return (Text.unitsOf text.toList).map fun u => Text.ofUnits [u]
    else return (Text.splitBy separator.toList text.toList).map String.ofList

/-- Runs a method on a text. -/
def onText (call : Caller σ) (text : String) (args : List Value) : StringMethod → Run σ Value
  | .toString => return .string text
  | .charAt => see fun h =>
    .string (((unitAt? text (h.number (Value.argument args 0))).map fun u => Text.ofUnits [u]).getD "")
  | .charCodeAt => see fun h =>
    .number (((unitAt? text (h.number (Value.argument args 0))).map fun u => ofWhole u.toNat).getD notANumber)
  | .indexOf => see fun h =>
    let start := h.relativeIndex (Value.argument args 1) (Text.unitCount text) 0
    match Text.find? (h.text (Value.argument args 0)) text start with
    | some i => .ofNat i
    | none => .number (-1)
  | .slice => see fun h =>
    let length := Text.unitCount text
    let start := h.relativeIndex (Value.argument args 0) length 0
    let stop := h.relativeIndex (Value.argument args 1) length length
    .string (Text.unitSlice text start stop)
  | .substring => see fun h =>
    let length := Text.unitCount text
    let a := h.clampedIndex (Value.argument args 0) length 0
    let b := h.clampedIndex (Value.argument args 1) length length
    .string (Text.unitSlice text (min a b) (max a b))
  | .toUpperCase => return .string (Unicode.toUpper text)
  | .toLowerCase => return .string (Unicode.toLower text)
  | .trim => return .string (String.ofList (Text.trim text.toList))
  | .split => do
    let parts ← splitText text (Value.argument args 0)
    match Value.argument args 1 with
    | .undefined => newArray (parts.map .string)
    | limit => newArray ((parts.take (← see (·.uint32 limit))).map .string)
  | .replace => do
    return .string (← replace call text (Value.argument args 0) (Value.argument args 1))

/-- Runs a method of strings on a value. -/
def stringMethod (call : Caller σ) (m : StringMethod) (this : Value) (args : List Value) : Run σ Value := do
  if this.isNullish then refuse .stringMethod
  else onText call (← see (·.text this)) args m

end Run

end ScriptCoverage.Machine
