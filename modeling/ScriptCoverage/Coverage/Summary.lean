import ScriptCoverage.Number.Binary

/-!
How much of a piece of code was covered: the number of its statements, and how many of them ran. The sum
of summaries counts the statements of all of them.
-/

namespace ScriptCoverage

/-- Counts of statements; the covered ones are among all of them. -/
structure Summary where
  total : Nat
  covered : Nat
  covered_le : covered ≤ total
  deriving DecidableEq, Repr

namespace Summary

/-- A summary of `total` statements; more than all of them cannot be covered. -/
def ofCounts (total covered : Nat) : Summary := ⟨total, min covered total, Nat.min_le_right ..⟩

def uncovered (s : Summary) : Nat := s.total - s.covered

/-- The covered part in percent, rounded once at the division and once at the product. Nothing is
covered completely. -/
def percent (s : Summary) : Float :=
  if s.total = 0 then 100 else ofWhole s.covered / ofWhole s.total * 100

def isComplete (s : Summary) : Bool := s.covered == s.total

instance : Add Summary := ⟨fun s t => ofCounts (s.total + t.total) (s.covered + t.covered)⟩

def sum (ss : List Summary) : Summary := ss.foldl (· + ·) (ofCounts 0 0)

end Summary

end ScriptCoverage
