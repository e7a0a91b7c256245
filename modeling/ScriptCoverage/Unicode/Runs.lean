/-!
Tables over all code points. A table is a list of runs of equal values; `Runs.unpack` reads it from its
packed form and `Runs.get?` finds the value of a code point.
-/

namespace ScriptCoverage.Unicode

/-- First code point and value of every run, in ascending order. -/
structure Runs (α : Type) where
  starts : Array (Nat × α)
  deriving Inhabited

namespace Runs

variable {α : Type}

/-! ### The packed form -/

def hexValue? (c : Char) : Option Nat :=
  if c.isDigit then some (c.toNat - 48) else if 'a' ≤ c ∧ c ≤ 'f' then some (c.toNat - 87) else none

/-- The state of unpacking: the finished runs, the value and the length of the run being read, and the
first code point of that run. -/
structure Unpacking (α : Type) where
  runs : Array (Nat × α) := #[]
  current : Option α := none
  len : Nat := 0
  next : Nat := 0

def Unpacking.close (u : Unpacking α) : Unpacking α :=
  match u.current with
  | none => u
  | some v => ⟨u.runs.push (u.next, v), none, 0, u.next + (if u.len = 0 then 1 else u.len)⟩

def Unpacking.step (value : Char → Option α) (u : Unpacking α) (c : Char) : Unpacking α :=
  match hexValue? c with
  | some d => { u with len := u.len * 16 + d }
  | none => { u.close with current := value c, len := 0 }

/-- Reads runs from code point 0 on. A run is the letter of its value and its length in hexadecimal, which
is left out if it is one. -/
def unpack (value : Char → Option α) (packed : List String) : Runs α :=
  ⟨(packed.foldl (fun u line => line.toList.foldl (Unpacking.step value) u) ({} : Unpacking α)).close.runs⟩

/-! ### Look-up -/

/-- The value of the last run that starts at or before `c`, among those from `lo` on and before `hi`. -/
def search (table : Array (Nat × α)) (c lo hi : Nat) : Option α :=
  if _h : lo + 1 < hi then
    let mid := (lo + hi) / 2
    match table[mid]? with
    | some (start, _) => if start ≤ c then search table c mid hi else search table c lo mid
    | none => none
  else
    (table[lo]?).map Prod.snd
  termination_by hi - lo
  decreasing_by all_goals omega

def get? (r : Runs α) (c : Nat) : Option α := search r.starts c 0 r.starts.size

/-- First and last code point of the runs whose values have a property, given the start of the code points
behind the table. -/
def rangesFrom (p : α → Bool) (stop : Nat) : List (Nat × α) → List (Nat × Nat)
  | [] => []
  | (start, v) :: rs =>
    let next := (rs.head?.map Prod.fst).getD stop
    if p v then (start, next - 1) :: rangesFrom p stop rs else rangesFrom p stop rs

/-- The ranges of code points whose values have a property. -/
def ranges (p : α → Bool) (r : Runs α) : List (Nat × Nat) := rangesFrom p 0x110000 r.starts.toList

end Runs

end ScriptCoverage.Unicode
