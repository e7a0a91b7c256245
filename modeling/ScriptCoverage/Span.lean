import ScriptCoverage.Text.Bytes

/-!
Byte ranges of a source text. A range is half open, counts UTF-8 bytes, and the range `0:0` marks
a node that never stood in any text. The main operation is `Span.slice?`, the text that a range covers.
-/

namespace ScriptCoverage

/-- The bytes from `start` up to, but not including, `stop`. -/
structure Span where
  start : Nat
  stop : Nat
  deriving DecidableEq, Inhabited, Repr

namespace Span

/-- The range of a node that was made up rather than read. -/
def dummy : Span := ⟨0, 0⟩

/-- Length in bytes; a range that ends before it starts has none. -/
def len (s : Span) : Nat := s.stop - s.start

def isEmpty (s : Span) : Bool := s.len == 0

def isDummy (s : Span) : Bool := s == dummy

/-- The text that the range covers in `source`, if it lies on character boundaries. -/
def slice? (s : Span) (source : String) : Option String := Text.slice? source s.start s.stop

/-- The written form `start:stop`, which also names the counter of a statement. -/
def key (s : Span) : String := toString s.start ++ ":" ++ toString s.stop

end Span

end ScriptCoverage
