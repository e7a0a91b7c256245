import ScriptCoverage.Machine.Heap
import ScriptCoverage.Number.Reading

/-!
Values as texts and numbers, and comparisons that go through them. Values on the heap take part as their
texts. The main operations are `Heap.text`, `Heap.number`, `Heap.looseEquals` and `Heap.compare`.
-/

namespace ScriptCoverage.Machine

namespace Heap

/-! ### Texts -/

/-- The text of an object: name and message, if it has both, and the same words for every other one. -/
def objectText (h : Heap) (r : ObjectRef) : String :=
  match h.lookup? r "name", h.lookup? r "message" with
  | some (.data (.string name)), some (.data (.string message)) =>
    if message = "" then name else name ++ ": " ++ message
  | _, _ => "[object Object]"

/-- The text of a value, with arrays opened up to a depth. -/
def textWithin (h : Heap) : Nat → Value → String
  | _, .undefined => "undefined"
  | _, .null => "null"
  | _, .bool b => if b then "true" else "false"
  | _, .number x => numberText x
  | _, .string s => s
  | _, .object r => h.objectText r
  | _, .function r => "function " ++ (h.function r).name ++ "() \x7b [native code] \x7d"
  | _, .regex r => (h.regex r).shown
  | 0, .array _ => ""
  | n + 1, .array r =>
    ",".intercalate ((h.array r).toList.map fun v => if v.isNullish then "" else textWithin h n v)

/-- The text of a value. An array that does not contain itself nests no deeper than there are arrays. -/
def text (h : Heap) (v : Value) : String := h.textWithin h.arrays.size v

/-- The texts of values with a separator in between; `undefined` and `null` are left blank. -/
def joined (h : Heap) (separator : String) (vs : List Value) : String :=
  separator.intercalate (vs.map fun v => if v.isNullish then "" else h.text v)

/-- The text of an argument, which is empty if the argument is missing. -/
def argumentText (h : Heap) (v : Value) : String := if v = .undefined then "" else h.text v

/-- A value on the heap as its text, any other one as it is. -/
def primitive (h : Heap) (v : Value) : Value := if v.isObject then .string (h.text v) else v

/-! ### Numbers -/

def number (h : Heap) (v : Value) : Float :=
  match v with
  | .undefined => notANumber
  | .null => 0
  | .bool b => if b then 1 else 0
  | .number x => x
  | .string s => numberOfText s
  | .object _ | .array _ | .function _ | .regex _ => numberOfText (h.text v)

/-- The number of a value as a signed whole one of 32 bits. -/
def int32 (h : Heap) (v : Value) : Int := wrapSigned32 (h.number v)

/-- The number of a value as an unsigned whole one of 32 bits. -/
def uint32 (h : Heap) (v : Value) : Nat := wrap32 (h.number v)

/-! ### Comparison -/

/-- A boolean value as a number. -/
def unboolean (h : Heap) (v : Value) : Value :=
  match v with
  | .bool _ => .number (h.number v)
  | _ => v

def isNumberOrString : Value → Bool
  | .number _ | .string _ => true
  | _ => false

/-- The operator `==`. Booleans take part as numbers, values on the heap beside numbers and strings as
their texts, and strings beside numbers as numbers. -/
def looseEquals (h : Heap) (a b : Value) : Bool :=
  if a.isNullish || b.isNullish then a.isNullish && b.isNullish
  else
    let a := h.unboolean a
    let b := h.unboolean b
    let a' := if isNumberOrString b then h.primitive a else a
    let b' := if isNumberOrString a then h.primitive b else b
    match a', b' with
    | .number x, .string s => x == numberOfText s
    | .string s, .number y => numberOfText s == y
    | a, b => a.strictEquals b

/-- An order, which texts follow character by character and all else by numbers. -/
inductive Relation
  | less | lessOrEqual | greater | greaterOrEqual
  deriving DecidableEq, Inhabited, Repr

def Relation.onTexts (r : Relation) (s t : String) : Bool :=
  match r with
  | less => s < t
  | lessOrEqual => s ≤ t
  | greater => t < s
  | greaterOrEqual => t ≤ s

def Relation.onNumbers (r : Relation) (x y : Float) : Bool :=
  match r with
  | less => x < y
  | lessOrEqual => x ≤ y
  | greater => y < x
  | greaterOrEqual => y ≤ x

/-- Compares two values. -/
def compare (h : Heap) (r : Relation) (a b : Value) : Bool :=
  match h.primitive a, h.primitive b with
  | .string s, .string t => r.onTexts s t
  | a, b => r.onNumbers (h.number a) (h.number b)

end Heap

/-- What a failed run says. -/
def RuntimeError.message (h : Heap) : RuntimeError → String
  | thrown v => "Uncaught " ++ h.text v
  | e => e.fixedMessage

end ScriptCoverage.Machine
