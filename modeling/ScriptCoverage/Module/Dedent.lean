import ScriptCoverage.Text.Cut
import ScriptCoverage.Text.Lines

/-!
The body of a function as text, moved to the left. `functionSource` takes what stands between the first and
the last brace and removes the indentation of the first line that is not blank from every line that starts
with it.
-/

namespace ScriptCoverage.Module

open Text

/-- What stands in front of the first opening brace, and between it and the last closing brace. -/
def cutBraces? (cs : List Char) : Option (List Char × List Char) :=
  (cutAt? '\x7b' cs).bind fun (header, rest) => (cutAtLast? '\x7d' rest).map fun (body, _) => (header, body)

/-- The blanks in front of the first line that is not blank. -/
def indentation (cs : List Char) : List Char :=
  match (lines cs).find? (!isBlankText ·) with
  | some l => l.takeWhile Unicode.isBlank
  | none => []

/-- A line without an indentation, if it starts with it. -/
def removeIndent (indent line : List Char) : List Char := (dropStart? indent line).getD line

/-- A text with the indentation of its first line that is not blank removed from its lines. -/
def dedent (cs : List Char) : List Char :=
  let indent := indentation cs
  if indent.isEmpty then cs else (pieces cs).flatMap (removeIndent indent)

/-- The body of a function text, moved to the left; without a pair of braces there is none. -/
def functionSource (text : String) : String :=
  match cutBraces? text.toList with
  | some (_, body) => String.ofList (dedent body)
  | none => ""

end ScriptCoverage.Module
