import ScriptCoverage.Machine.Conversion
import ScriptCoverage.Machine.Scope

/-!
Reading and writing properties and names in a run. Accessors run functions, so every operation here is given
the way to call one.
-/

namespace ScriptCoverage.Machine

variable {σ : Type}

/-- How a function is called: the function, the receiver and the arguments. -/
abbrev Caller (σ : Type) := Value → Value → List Value → Run σ Value

namespace Run

/-! ### Reading properties -/

/-- The value that reading a property gives to a receiver. -/
def readProperty (call : Caller σ) (receiver : Value) : Option Property → Run σ Value
  | none | some (.accessor none _) => return .undefined
  | some (.data v) => return v
  | some (.accessor (some get) _) => call get receiver []

/-- Reads what a value inherits from an object. -/
def readInherited (call : Caller σ) (receiver : Value) (proto : ObjectRef) (key : String) : Run σ Value := do
  readProperty call receiver (← see (·.lookup? proto key))

/-- Reads a property of a function. The prototype for what a function constructs comes into being with the
first read. -/
def readFunction (call : Caller σ) (r : FunctionRef) (key : String) : Run σ Value := do
  let f ← see (·.function r)
  match f.properties.property? key with
  | some p => readProperty call (.function r) (some p)
  | none =>
    if key = "name" then return .string f.name
    else if key = "length" then return .ofNat (← see (·.arity r))
    else if key = "prototype" && f.kind.hasOwnPrototype then
      let proto ← emptyObject
      change (·.modifyProperties r (·.setHidden "prototype" proto))
      return proto
    else readInherited call (.function r) functionPrototype key

/-- The item of an array at a position. -/
def itemAt (items : Array Value) (i : Nat) : Value := items[i]?.getD .undefined

/-- The text of the unit at a position of a text. -/
def unitText? (s : String) (i : Nat) : Option String := (Text.unitAt? s i).map fun u => Text.ofUnits [u]

/-- Reads a property of a string. -/
def readString (call : Caller σ) (s : String) (key : String) : Run σ Value :=
  if key = "length" then return .ofNat (Text.unitCount s)
  else match positionOf? key with
    | some i => return ((unitText? s i).map .string).getD .undefined
    | none => readInherited call (.string s) stringPrototype key

/-- Reads a property of an array. -/
def readArray (call : Caller σ) (r : ArrayRef) (key : String) : Run σ Value := do
  let items ← see (·.array r)
  if key = "length" then return .ofNat items.size
  else match positionOf? key with
    | some i => return itemAt items i
    | none => readInherited call (.array r) arrayPrototype key

/-- The property of a regular expression that is not inherited. -/
def regexProperty? (x : Pattern.Regex) : String → Option Value
  | "source" => some (.string x.source)
  | "flags" => some (.string x.flags)
  | "global" => some (.bool x.isGlobal)
  | "ignoreCase" => some (.bool (Pattern.Regex.hasFlag x.flags 'i'))
  | "multiline" => some (.bool (Pattern.Regex.hasFlag x.flags 'm'))
  | "lastIndex" => some (.ofNat x.lastIndex)
  | _ => none

/-- Reads a property of a regular expression. -/
def readRegex (call : Caller σ) (r : RegexRef) (key : String) : Run σ Value := do
  match regexProperty? (← see (·.regex r)) key with
  | some v => return v
  | none => readInherited call (.regex r) regexPrototype key

/-- Reads a property of a value. -/
def getProperty (call : Caller σ) (v : Value) (key : String) : Run σ Value :=
  match v with
  | .undefined => refuse (.readOf "undefined" key)
  | .null => refuse (.readOf "null" key)
  | .object r => readInherited call v r key
  | .function r => readFunction call r key
  | .array r => readArray call r key
  | .string s => readString call s key
  | .regex r => readRegex call r key
  | .number _ => readInherited call v numberPrototype key
  | .bool _ => readInherited call v objectPrototype key

/-! ### Writing properties -/

/-- Hands a new value to an accessor, if it takes one. -/
def writeAccessor (call : Caller σ) (receiver new : Value) : Option Value → Run σ Unit
  | none => return
  | some set => do let _ ← call set receiver [new]

/-- Writes a property of an object, or hands the value to an accessor that the object has or inherits. -/
def writeObject (call : Caller σ) (r : ObjectRef) (key : String) (new : Value) : Run σ Unit := do
  match ← see (·.lookup? r key) with
  | some (.accessor _ set) => writeAccessor call (.object r) new set
  | _ => change (·.modifyObject r (·.set key new))

/-- Writes a property of a function. -/
def writeFunction (call : Caller σ) (r : FunctionRef) (key : String) (new : Value) : Run σ Unit := do
  match (← see (·.function r)).properties.property? key with
  | some (.accessor _ set) => writeAccessor call (.function r) new set
  | _ =>
    if key = "prototype" then change (·.modifyProperties r (·.setHidden key new))
    else change (·.modifyProperties r (·.set key new))

/-- Items filled up with `undefined` to a length. -/
def fill (items : Array Value) (length : Nat) : Array Value :=
  items ++ Array.replicate (length - items.size) .undefined

/-- Items cut or filled up to a length. -/
def resize (items : Array Value) (length : Nat) : Array Value :=
  if length < items.size then items.take length else fill items length

/-- Puts an item at a position, which may lie behind the end. -/
def putItem (items : Array Value) (i : Nat) (new : Value) : Array Value :=
  if i < items.size then items.setIfInBounds i new else (fill items i).push new

/-- Writes an item of an array or its length. -/
def writeArray (r : ArrayRef) (key : String) (new : Value) : Run σ Unit :=
  match positionOf? key with
  | some i => change (·.modifyArray r (putItem · i new))
  | none =>
    if key = "length" then do
      let length ← see (·.uint32 new)
      change (·.modifyArray r (resize · length))
    -- other properties of arrays are not kept
    else return

/-- The position that a number sets a regular expression to: its whole part, from zero to what a machine
word holds. -/
def positionOfNumber (x : Float) : Nat :=
  if x.isInf && 0 < x then Nat.pow 2 64 - 1 else min ((truncate? x).getD 0).toNat (Nat.pow 2 64 - 1)

/-- Writes the position of a regular expression. -/
def writeRegex (r : RegexRef) (key : String) (new : Value) : Run σ Unit :=
  if key = "lastIndex" then do
    let x ← see (·.number new)
    change (·.setLastIndex r (positionOfNumber x))
  else return

/-- Writes a property of a value. -/
def setProperty (call : Caller σ) (v : Value) (key : String) (new : Value) : Run σ Unit :=
  match v with
  | .undefined => refuse (.writeOf "undefined" key)
  | .null => refuse (.writeOf "null" key)
  | .object r => writeObject call r key new
  | .function r => writeFunction call r key new
  | .array r => writeArray r key new
  | .regex r => writeRegex r key new
  | .bool _ | .number _ | .string _ => return

/-- Deletes a property. Deleting an item of an array leaves `undefined` in its place. -/
def deleteProperty (v : Value) (key : String) : Run σ Unit :=
  match v with
  | .object r => change (·.modifyObject r (·.erase key))
  | .function r => change (·.modifyProperties r (·.erase key))
  | .array r =>
    match positionOf? key with
    | some i => change (·.modifyArray r (·.setIfInBounds i .undefined))
    | none => return
  | _ => return

/-! ### Names -/

/-- Reads a name. -/
def getName (call : Caller σ) (scope : Scope) (name : String) : Run σ Value := do
  match (← get).resolve? scope name with
  | some (.binding owner) => return ((← get).binding? (owner.head?.getD globalFrame) name).getD .undefined
  | some (.property v) => getProperty call v name
  | none => fail (.unbound name)

/-- Writes a name. One that is found nowhere is bound in the global frame. -/
def setName (call : Caller σ) (scope : Scope) (name : String) (new : Value) : Run σ Unit := do
  match (← get).resolve? scope name with
  | some (.binding owner) => modify (·.declare owner name new)
  | some (.property v) => setProperty call v name new
  | none => modify (·.bind globalFrame name new)

/-- Binds a name in the innermost frame of a scope. -/
def declare (scope : Scope) (name : String) (v : Value) : Run σ Unit := modify (·.declare scope name v)

end Run

end ScriptCoverage.Machine
