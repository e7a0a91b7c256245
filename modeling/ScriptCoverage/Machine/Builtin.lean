import ScriptCoverage.Machine.Builtin.Text

/-!
What the functions that are there from the start do. `Run.builtin` runs one of them, given the way to call
other functions.
-/

namespace ScriptCoverage.Machine

variable {σ : Type}

/-- The greatest length of an array. -/
def maxArrayLength : Nat := Nat.pow 2 32 - 1

/-- Most places behind the point that a number is written with. -/
def maxPlaces : Nat := 100

namespace Run

/-! ### Functions -/

/-- The arguments that a value provides as a list. -/
def argumentList : Value → Run σ (List Value)
  | .undefined | .null => return []
  | .array r => see fun h => (h.array r).toList
  | _ => refuse .argumentList

/-- Binds a receiver and arguments of a function. -/
def bindFunction (target : Value) (args : List Value) : Run σ Value := do
  match target with
  | .function r =>
    let name ← see fun h => (h.function r).name
    newFunction { name := "bound " ++ name, kind := .bound r (Value.argument args 0) (args.drop 1) }
  | _ => refuse .bindNonFunction

/-! ### Numbers -/

/-- A number with a fixed number of places. -/
def fixed (this places : Value) : Run σ Value := do
  let places ← see (·.number places)
  if places < 0 || ofWhole maxPlaces < places then
    raise .rangeError "toFixed() digits argument must be between 0 and 100"
  else
    let x ← see (·.number this)
    match Binary.ofFloat? x with
    | some d => return .string (fixedText ((truncate? places).getD 0).toNat d)
    | none => return .string (numberText x)

/-! ### Regular expressions -/

/-- Searches a text for a regular expression and moves its position. -/
def search (r : RegexRef) (text : String) : Run σ (Option Pattern.Groups) := do
  let (found, next) := (← see (·.regex r)).exec text
  change (·.setLastIndex r next)
  return found

/-- The groups of the next match as an array, or `null`. -/
def execRegex (r : RegexRef) (text : String) : Run σ Value := do
  match ← search r text with
  | some g => newArray ((Match.ofGroups text g).groups.map fun s => (s.map Value.string).getD .undefined)
  | none => return .null

/-- Makes a regular expression from a pattern or another one, and flags. -/
def makeRegex (source flags : Value) : Run σ Value := do
  match source, flags with
  | .regex r, .undefined =>
    let x ← see (·.regex r)
    newRegex x.source x.flags
  | .regex r, flags =>
    let x ← see (·.regex r)
    newRegex x.source (← see (·.text flags))
  | .undefined, flags => newRegex "(?:)" (← see (·.argumentText flags))
  | source, flags => newRegex (← see (·.text source)) (← see (·.argumentText flags))

/-! ### Objects and arrays -/

/-- An array of a length if that is the only argument, and of the arguments otherwise. -/
def makeArray (args : List Value) : Run σ Value :=
  match args with
  | [.number x] =>
    if isWhole x && 0 ≤ x && x ≤ ofWhole maxArrayLength then
      newArray (List.replicate ((truncate? x).getD 0).toNat .undefined)
    else raise .rangeError "Invalid array length"
  | _ => newArray args

/-- Logs a line. -/
def log (line : String) : Run σ Unit := modify fun m => { m with console := m.console.push line }

/-! ### All of them -/

/-- Runs a function that is there from the start. -/
def builtin (call : Caller σ) (this : Value) (args : List Value) : Builtin → Run σ Value
  | .hasOwnProperty => see fun h => .bool (h.hasOwn this (h.text (Value.argument args 0)))
  | .classText => return .string ("[object " ++ this.className ++ "]")
  | .receiver => return this
  | .ownText => see fun h => .string (h.text this)
  | .call => call this (Value.argument args 0) (args.drop 1)
  | .apply => do call this (Value.argument args 0) (← argumentList (Value.argument args 1))
  | .bind => bindFunction this args
  | .array m => arrayMethod call m this args
  | .string m => stringMethod call m this args
  | .numberText => see fun h => .string (numberText (h.number this))
  | .fixedText => fixed this (Value.argument args 0)
  | .regexTest => do
    match this with
    | .regex r => return .bool (← search r (← see (·.text (Value.argument args 0)))).isSome
    | _ => refuse (.regexMethod "test")
  | .regexExec => do
    match this with
    | .regex r => execRegex r (← see (·.text (Value.argument args 0)))
    | _ => refuse (.regexMethod "exec")
  | .log => do
    log (← see fun h => " ".intercalate (args.map h.text))
    return .undefined
  | .makeObject =>
    let v := Value.argument args 0
    if v.isObject then return v else emptyObject
  | .keys => do
    match ← see (·.ownKeys? (Value.argument args 0)) with
    | some keys => newArray (keys.map .string)
    | none => refuse .nullishToObject
  | .create =>
    match Value.argument args 0 with
    | .object r => newObject { proto := some r }
    | .null => newObject {}
    | _ => refuse .createPrototype
  | .getPrototypeOf => see fun h => ((h.prototypeOf? (Value.argument args 0)).map .object).getD .null
  | .makeFunction => refuse .functionConstructor
  | .makeArray => makeArray args
  | .isArray => return .bool (Value.argument args 0).isArray
  | .makeString => see fun h => .string ((args.head?.map h.text).getD "")
  | .makeNumber => see fun h => .number ((args.head?.map h.number).getD 0)
  | .makeRegex => makeRegex (Value.argument args 0) (Value.argument args 1)
  | .makeError kind => do newError kind (← see (·.argumentText (Value.argument args 0)))
  | .makeBoolean => return .bool (Value.argument args 0).isTruthy
  | .isNaN => see fun h => .bool (h.number (Value.argument args 0)).isNaN
  | .parseFloat => see fun h => .number (leadingDecimal (h.text (Value.argument args 0)))
  | .parseInt => see fun h =>
    .number (leadingWhole (h.text (Value.argument args 0)) (h.int32 (Value.argument args 1)))

end Run

end ScriptCoverage.Machine
