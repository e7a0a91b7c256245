import ScriptCoverage.Identifier
import ScriptCoverage.Number.Binary
import ScriptCoverage.Source.Bodies
import ScriptCoverage.Source.Build
import ScriptCoverage.Source.Node

/-!
Probes: calls of a recorder that stand in front of statements. `Probe.insert` puts one in front of every
statement of every sequential body, and `Script.bodyRanges` lists the ranges that they report, those of a
body before those of the bodies inside it.
-/

namespace ScriptCoverage

open Source (Expr Stmt Script)

/-- What all probes of a module share: the name of the recorder and the key of the module. -/
structure Probe where
  recorder : Identifier
  key : String

namespace Probe

/-- The statement `recorder("key", start, end);`. -/
def call (p : Probe) (s : Span) : Stmt :=
  .ofExpr (.ofCall (.ofName p.recorder.name)
    [.ofString p.key, .ofNumber (ofWhole s.start), .ofNumber (ofWhole s.stop)])

/-- Puts a probe in front of every statement of a list. -/
def interleave (p : Probe) : List Stmt → List Stmt
  | [] => []
  | s :: ss => p.call s.span :: s :: p.interleave ss

/-- Puts a probe in front of every statement of every sequential body. -/
def insert (p : Probe) (t : Script) : Script := t.mapBodies p.interleave

end Probe

end ScriptCoverage
