import ScriptCoverage.Machine.Heap
import ScriptCoverage.Number.Reading
import ScriptCoverage.Text.Units

/-!
What values own and what they inherit. The prototypes that are there from the start have fixed places in the
heap. `Heap.hasOwn` and `Heap.hasProperty` are the tests for keys, `Heap.ownKeys?` and `Heap.loopKeys` the
enumerations.
-/

namespace ScriptCoverage.Machine

/-! ### Prototypes that are there from the start -/

def objectPrototype : ObjectRef := ⟨0⟩
def functionPrototype : ObjectRef := ⟨1⟩
def arrayPrototype : ObjectRef := ⟨2⟩
def stringPrototype : ObjectRef := ⟨3⟩
def numberPrototype : ObjectRef := ⟨4⟩
def regexPrototype : ObjectRef := ⟨5⟩

def errorPrototype : ErrorKind → ObjectRef
  | .error => ⟨6⟩
  | .typeError => ⟨7⟩
  | .rangeError => ⟨8⟩
  | .referenceError => ⟨9⟩
  | .syntaxError => ⟨10⟩

/-- The position that a key names: decimal digits without a needless zero in front. -/
def positionOf? (key : String) : Option Nat :=
  let cs := key.toList
  if cs ≠ [] ∧ cs.all Char.isDigit ∧ (cs.length = 1 ∨ cs.head? ≠ some '0') then
    let n : Nat := Reading.digitsValue cs
    if n < Nat.pow 2 64 then some n else none
  else none

/-- The keys of positions in front of a length. -/
def positionKeys (length : Nat) : List String := (List.range length).map toString

namespace Heap

/-! ### Tests for keys -/

/-- The object where reads go on that find nothing on the value itself. -/
def prototypeOf? (h : Heap) : Value → Option ObjectRef
  | .undefined | .null => none
  | .object r => (h.object r).proto
  | .bool _ => some objectPrototype
  | .number _ => some numberPrototype
  | .string _ => some stringPrototype
  | .array _ => some arrayPrototype
  | .function _ => some functionPrototype
  | .regex _ => some regexPrototype

/-- Whether a value itself has a property. -/
def hasOwn (h : Heap) (v : Value) (key : String) : Bool :=
  match v with
  | .object r => (h.object r).contains key
  | .function r => key == "name" || key == "length" || (h.function r).properties.contains key
  | .array r => key == "length" || (positionOf? key).any (· < (h.array r).size)
  | .string s => key == "length" || (positionOf? key).any (· < Text.unitCount s)
  | .regex _ => key == "lastIndex"
  | .undefined | .null | .bool _ | .number _ => false

/-- Whether a value has a property, of its own or from a prototype. -/
def hasProperty (h : Heap) (v : Value) (key : String) : Bool :=
  h.hasOwn v key ||
  match v with
  | .function r =>
    if key = "prototype" then (h.function r).kind.hasOwnPrototype else h.has functionPrototype key
  | v => (h.prototypeOf? v).any fun r => h.has r key

/-! ### Enumerations -/

/-- The keys of a value's own properties that enumerations show; `undefined` and `null` have none, not even
an empty list of them. -/
def ownKeys? (h : Heap) : Value → Option (List String)
  | .undefined | .null => none
  | .object r => some (h.object r).enumerableKeys
  | .function r => some (h.function r).properties.enumerableKeys
  | .array r => some (positionKeys (h.array r).size)
  | .string s => some (positionKeys (Text.unitCount s))
  | .bool _ | .number _ | .regex _ => some []

/-- Appends the keys that are not there yet. -/
def addKeys (seen keys : List String) : List String :=
  keys.foldl (fun seen key => if seen.contains key then seen else seen ++ [key]) seen

/-- The keys that a loop over a value visits: its own, and then those of the prototypes of an object that
were not seen before. -/
def loopKeys (h : Heap) (v : Value) : List String :=
  match v with
  | .object r =>
    (h.chain (h.object r).proto).foldl (fun seen p => addKeys seen (h.object p).enumerableKeys)
      (h.object r).enumerableKeys
  | v => (h.ownKeys? v).getD []

end Heap

end ScriptCoverage.Machine
