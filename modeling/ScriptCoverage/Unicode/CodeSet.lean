import ScriptCoverage.Unicode.Runs

/-!
Sets of code points as ascending ranges that do not touch. Membership is a binary search; union, complement
and what follows from them work on the lists of ranges.
-/

namespace ScriptCoverage.Unicode

/-- First and last code point of every range. -/
structure CodeSet where
  ranges : Array (Nat × Nat) := #[]
  deriving DecidableEq, Inhabited, Repr

namespace CodeSet

def empty : CodeSet := {}

def isEmpty (s : CodeSet) : Bool := s.ranges.isEmpty

/-- Joins ranges in ascending order that overlap or touch; `lo` and `hi` are the range being joined. -/
def join (lo hi : Nat) : List (Nat × Nat) → List (Nat × Nat)
  | [] => [(lo, hi)]
  | (lo', hi') :: rs => if lo' ≤ hi + 1 then join lo (max hi hi') rs else (lo, hi) :: join lo' hi' rs

/-- The set of all code points in the given ranges, whatever their order. -/
def ofRanges (rs : List (Nat × Nat)) : CodeSet :=
  match rs.mergeSort (fun a b => decide (a.1 ≤ b.1)) with
  | [] => empty
  | (lo, hi) :: rs => ⟨(join lo hi rs).toArray⟩

def toList (s : CodeSet) : List (Nat × Nat) := s.ranges.toList

/-- All code points. -/
def all : CodeSet := ofRanges [(0, 0x10ffff)]

def singleton (c : Char) : CodeSet := ofRanges [(c.toNat, c.toNat)]

def ofChars (cs : List Char) : CodeSet := ofRanges (cs.map fun c => (c.toNat, c.toNat))

/-- Reads the packed form: `N` starts a run outside the set and `Y` one inside. -/
def unpack (packed : List String) : CodeSet :=
  ofRanges ((Runs.unpack (fun c => if c == 'Y' then some true else if c == 'N' then some false else none)
    (packed ++ ["N"])).ranges id)

/-! ### Membership -/

/-- Whether one of the ranges from `lo` on and before `hi` holds a code point. -/
def search (rs : Array (Nat × Nat)) (c lo hi : Nat) : Bool :=
  if _h : lo < hi then
    let mid := (lo + hi) / 2
    match rs[mid]? with
    | some (first, last) =>
      if c < first then search rs c lo mid else if last < c then search rs c (mid + 1) hi else true
    | none => false
  else false
  termination_by hi - lo
  decreasing_by all_goals omega

def containsCode (s : CodeSet) (c : Nat) : Bool := search s.ranges c 0 s.ranges.size

def contains (s : CodeSet) (c : Char) : Bool := s.containsCode c.toNat

/-! ### Operations -/

def union (s t : CodeSet) : CodeSet :=
  if s.isEmpty then t else if t.isEmpty then s else ofRanges (s.toList ++ t.toList)

/-- The ranges between ascending ranges, from `lo` on. -/
def gaps (lo : Nat) : List (Nat × Nat) → List (Nat × Nat)
  | [] => if lo ≤ 0x10ffff then [(lo, 0x10ffff)] else []
  | (first, last) :: rs => if lo < first then (lo, first - 1) :: gaps (last + 1) rs else gaps (last + 1) rs

def complement (s : CodeSet) : CodeSet := ⟨(gaps 0 s.toList).toArray⟩

def inter (s t : CodeSet) : CodeSet := (s.complement.union t.complement).complement

def diff (s t : CodeSet) : CodeSet := (s.complement.union t).complement

def symmDiff (s t : CodeSet) : CodeSet := (s.union t).diff (s.inter t)

/-- Whether all code points of the set are ASCII characters. -/
def isAscii (s : CodeSet) : Bool := s.ranges.back?.all fun r => r.2 < 128

end CodeSet

end ScriptCoverage.Unicode
