import ScriptCoverage.Coverage.Probe
import ScriptCoverage.Coverage.Summary
import ScriptCoverage.Source.Printer
import ScriptCoverage.Table

/-!
The record of one module: its text, the ranges of its statements, and how often each of them ran. A
record starts with the tree of the module; `Record.insert` puts probes into it and lists the ranges, and
`Record.regenerate` turns it into text and gives it up. Counters are named by ranges, `start:stop`.
-/

namespace ScriptCoverage

open Source (Script)

/-- What is known about the coverage of a module. `covered` counts the ranges that ran, and `uncovered`
holds zero for those that did not. -/
structure Record where
  key : String
  component : String
  source : String
  tree : Option Script
  ranges : List Span := []
  covered : Table Nat := {}
  uncovered : Table Nat := {}
  instrumented : String := ""

namespace Record

/-- The record of a module that was just read. -/
def ofScript (key component source : String) (t : Script) : Record := { key, component, source, tree := some t }

/-! ### Instrumentation -/

def addRange (r : Record) (s : Span) : Record :=
  { r with ranges := r.ranges ++ [s], uncovered := r.uncovered.put s.key 0 }

/-- Puts probes into the tree, if there still is one, and lists the ranges that they report. -/
def insert (r : Record) (recorder : Identifier) : Record :=
  match r.tree with
  | none => r
  | some t => t.bodyRanges.foldl addRange { r with tree := some (Probe.insert ⟨recorder, r.key⟩ t) }

/-- Turns the tree, if there still is one, into the instrumented text. -/
def regenerate (r : Record) : Record :=
  match r.tree with
  | none => r
  | some t => { r with tree := none, instrumented := t.print }

/-- Puts probes in and generates the text. -/
def cover (r : Record) (recorder : Identifier) : Record := (r.insert recorder).regenerate

/-! ### Counting -/

/-- How often a range ran. -/
def count (r : Record) (s : Span) : Nat := (r.covered.get? s.key).getD 0

/-- Counts a run of a range, which need not be one of the module's. -/
def hit (r : Record) (s : Span) : Record :=
  { r with uncovered := r.uncovered.erase s.key, covered := r.covered.put s.key (r.count s + 1) }

def isCovered (r : Record) (s : Span) : Bool := r.covered.contains s.key

def uncoveredRanges (r : Record) : List Span := r.ranges.filter fun s => r.uncovered.contains s.key

def summary (r : Record) : Summary := .ofCounts r.ranges.length (r.ranges.countP r.isCovered)

end Record

end ScriptCoverage
