import ScriptCoverage.Text.Lines

/-!
What can be wrong with a pattern, and the report of it: the pattern with marks under the characters that
are at fault, and a sentence.
-/

namespace ScriptCoverage.Pattern

/-- A rule that a pattern breaks. -/
inductive Fault
  | captureNameDuplicate | captureNameEmpty | captureNameInvalid | captureNameUnclosed
  | classEscapeInvalid | classRangeInvalid | classRangeLiteral | classUnclosed
  | countInvalid | countMissing | countUnclosed | decimalInvalid
  | escapeAtEnd | escapeUnknown | hexEmpty | hexInvalid | hexInvalidDigit
  | flagAtEnd | flagDanglingNegation | flagDuplicate | flagRepeatedNegation | flagUnknown
  | groupUnclosed | groupUnopened
  | operandMissing
  | propertyInvalid | propertyUnknown | propertyValueUnknown
  | wordBoundaryUnclosed | wordBoundaryUnknown | wordBoundaryAtEnd
  | backreference | lookAround | nestLimit
  | unicodeNotAllowed | invalidBytes
  deriving DecidableEq, Inhabited, Repr

def Fault.message : Fault → String
  | captureNameDuplicate => "duplicate capture group name"
  | captureNameEmpty => "empty capture group name"
  | captureNameInvalid => "invalid capture group character"
  | captureNameUnclosed => "unclosed capture group name"
  | classEscapeInvalid => "invalid escape sequence found in character class"
  | classRangeInvalid => "invalid character class range, the start must be <= the end"
  | classRangeLiteral => "invalid range boundary, must be a literal"
  | classUnclosed => "unclosed character class"
  | countInvalid => "invalid repetition count range, the start must be <= the end"
  | countMissing => "repetition quantifier expects a valid decimal"
  | countUnclosed => "unclosed counted repetition"
  | decimalInvalid => "decimal literal invalid"
  | escapeAtEnd => "incomplete escape sequence, reached end of pattern prematurely"
  | escapeUnknown => "unrecognized escape sequence"
  | hexEmpty => "hexadecimal literal is empty"
  | hexInvalid => "hexadecimal literal is not a Unicode scalar value"
  | hexInvalidDigit => "invalid hexadecimal digit"
  | flagAtEnd => "expected flag but got end of regex"
  | flagDanglingNegation => "dangling flag negation operator"
  | flagDuplicate => "duplicate flag"
  | flagRepeatedNegation => "flag negation operator repeated"
  | flagUnknown => "unrecognized flag"
  | groupUnclosed => "unclosed group"
  | groupUnopened => "unopened group"
  | operandMissing => "repetition operator missing expression"
  | propertyInvalid => "invalid Unicode character class"
  | propertyUnknown => "Unicode property not found"
  | propertyValueUnknown => "Unicode property value not found"
  | wordBoundaryUnclosed =>
    "special word boundary assertion is either unclosed or contains an invalid character"
  | wordBoundaryUnknown =>
    "unrecognized special word boundary assertion, valid choices are: start, end, start-half or end-half"
  | wordBoundaryAtEnd =>
    "found either the beginning of a special word boundary or a bounded repetition on a \\b with an opening brace, but no closing brace"
  | backreference => "backreferences are not supported"
  | lookAround => "look-around, including look-ahead and look-behind, is not supported"
  | nestLimit => "exceed the maximum number of nested parentheses/brackets (250)"
  | unicodeNotAllowed => "Unicode not allowed here"
  | invalidBytes => "pattern can match invalid UTF-8"

/-- The characters of a pattern from one position up to another, as numbers of characters. -/
structure Mark where
  start : Nat
  stop : Nat
  deriving DecidableEq, Inhabited, Repr

/-- A broken rule, where it is broken, and an earlier place that has to do with it. -/
structure Failure where
  fault : Fault
  mark : Mark
  earlier : Option Mark := none
  deriving DecidableEq, Inhabited, Repr

/-! ### The report -/

/-- Line and column of a position, both counted from zero. -/
def place (cs : List Char) (pos : Nat) : Nat × Nat :=
  let before := cs.take pos
  (before.count '\n', (before.reverse.takeWhile (· != '\n')).length)

/-- Carets under marks on one line; an empty mark has one as well. -/
def carets : Nat → List (Nat × Nat) → List Char
  | _, [] => []
  | pos, (start, stop) :: marks =>
    let width := max 1 (stop - start)
    List.replicate (start - pos) ' ' ++ List.replicate width '^' ++
      carets (max pos start + width) marks

/-- The marks of a failure in their order. -/
def Failure.marks (f : Failure) : List Mark :=
  match f.earlier with
  | none => [f.mark]
  | some m => if m.start ≤ f.mark.start then [m, f.mark] else [f.mark, m]

/-- The marks that lie on one line, as columns. -/
def marksOn (cs : List Char) (marks : List Mark) (line : Nat) : List (Nat × Nat) :=
  marks.filterMap fun m =>
    let (startLine, start) := place cs m.start
    let (stopLine, stop) := place cs m.stop
    if startLine = line && stopLine = line then some (start, stop) else none

/-- The report of a failure on a pattern. Patterns of several lines get line numbers. -/
def Failure.report (f : Failure) (pattern : String) : String :=
  let cs := pattern.toList
  let ls := Text.lines cs
  let count := ls.length + if cs.getLast? == some '\n' then 1 else 0
  let width := (toString count).length
  let label (i : Nat) : String :=
    if count ≤ 1 then "    "
    else
      let n := toString (i + 1)
      String.ofList (List.replicate (width - n.length) ' ') ++ n ++ ": "
  let pad := String.ofList (List.replicate (if count ≤ 1 then 4 else 2 + width) ' ')
  let noted := ls.zipIdx.map fun (l, i) =>
    let marks := marksOn cs f.marks i
    label i ++ String.ofList l ++ "\n" ++ if marks.isEmpty then "" else pad ++ String.ofList (carets 0 marks) ++ "\n"
  let spread := f.marks.filterMap fun m =>
    let (startLine, start) := place cs m.start
    let (stopLine, stop) := place cs m.stop
    if startLine = stopLine then none
    else some ("on line " ++ toString (startLine + 1) ++ " (column " ++ toString (start + 1) ++ ") through line " ++
      toString (stopLine + 1) ++ " (column " ++ toString stop ++ ")\n")
  let divider := if cs.contains '\n' then String.ofList (List.replicate 79 '~') ++ "\n" else ""
  "regex parse error:\n" ++ divider ++ String.join noted ++ divider ++ String.join spread ++ "error: " ++ f.fault.message

end ScriptCoverage.Pattern
