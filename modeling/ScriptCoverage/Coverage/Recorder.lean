import ScriptCoverage.Coverage.Error
import ScriptCoverage.Coverage.Record
import ScriptCoverage.Machine.Evaluate

/-!
Recorders: functions of the host that scripts call with the key of a module and a range. A call counts exactly
the range that it names, and a call that names none changes nothing and ends the script.
-/

namespace ScriptCoverage

open Machine (Value Host Run)

/-- What the host of a machine keeps: for each session the records of its modules by their keys, and whatever
else it wants to. -/
structure Ledger (τ : Type) where
  tables : Array (Table Record) := #[]
  rest : τ

namespace Recorder

/-! ### Calls -/

/-- The greatest offset. Numbers beyond it stand for it. -/
def maxOffset : Nat := Nat.pow 2 64 - 1

/-- The offset that an argument gives: a finite whole number that is not negative. -/
def offset? : Option Value → Option Nat
  | some (.number x) =>
    match Binary.ofFloat? x with
    | some d => if d.isWhole && 0 ≤ x then some (min d.truncate maxOffset) else none
    | none => none
  | _ => none

def offset (what : String) (v : Option Value) : Except CoverageError Nat :=
  match offset? v with
  | some n => .ok n
  | none => .error (.invalidCall (what ++ " must be a non-negative integer"))

/-- The key and the range that the arguments of a call name. -/
def target (args : List Value) : Except CoverageError (String × Span) :=
  match args.head? with
  | some (.string key) => do
    let start ← offset "start" args[1]?
    let stop ← offset "end" args[2]?
    return (key, ⟨start, stop⟩)
  | _ => .error (.invalidCall "key must be a string")

/-- Counts a run of a range of a module. The result is how often it has run. -/
def record (t : Table Record) (key : String) (s : Span) : Except CoverageError (Nat × Table Record) :=
  match t.get? key with
  | some r => .ok ((r.hit s).count s, t.put key (r.hit s))
  | none => .error (.unknownModule key)

/-- Counts what the arguments of a call name. -/
def recordArgs (t : Table Record) (args : List Value) : Except CoverageError (Nat × Table Record) := do
  let (key, s) ← target args
  record t key s

/-! ### As functions of the host -/

variable {τ : Type}

/-- The records of a session. -/
def table (l : Ledger τ) (session : Nat) : Table Record := l.tables[session]?.getD {}

def setTable (session : Nat) (t : Table Record) (l : Ledger τ) : Ledger τ :=
  { l with tables := l.tables.setIfInBounds session t }

/-- Runs the recorder of a session. -/
def call (session : Nat) (args : List Value) : Run (Ledger τ) Value := do
  let m ← get
  match recordArgs (table m.host session) args with
  | .ok (_, t) =>
    modify fun m => { m with host := setTable session t m.host }
    return .undefined
  | .error e => Run.fail (e.toFatal m.heap)

/-- A host that knows recorders beside the functions that another host knows. -/
def host (other : Host (Ledger τ)) : Host (Ledger τ) where
  call f this args :=
    match f with
    | .recorder session => call session args
    | f => other.call f this args
  begins := other.begins
  loads := other.loads

end Recorder

end ScriptCoverage
