import ScriptCoverage.Pattern.Meaning
import ScriptCoverage.Pattern.Search
import ScriptCoverage.Text.Units

/-!
Regular expressions of scripts: a pattern, flags, and for repeated searches the position where the next one
starts. `Regex.exec` searches once and moves that position. Positions count units of sixteen bits.
-/

namespace ScriptCoverage.Pattern

structure Regex where
  source : String
  flags : String
  code : Code
  lastIndex : Nat := 0
  deriving Inhabited, Repr

namespace Regex

/-- The first flag that is unknown or occurs twice. -/
def flagFault? : List Char → List Char → Option String
  | _, [] => none
  | seen, c :: cs =>
    if seen.contains c then some ("duplicate flag '" ++ c.toString ++ "'")
    else if ['i', 'm', 's', 'g', 'y', 'u', 'd'].contains c then flagFault? (c :: seen) cs
    else some ("invalid flag '" ++ c.toString ++ "'")

def hasFlag (flags : String) (c : Char) : Bool := flags.toList.contains c

/-- Reads a regular expression; what is wrong with it otherwise. -/
def compile (source flags : String) : Except String Regex :=
  match flagFault? [] flags.toList with
  | some message => .error message
  | none =>
    match Node.parse { anyCase := hasFlag flags 'i', multiLine := hasFlag flags 'm', dotAll := hasFlag flags 's' } source with
    | .error f => .error (f.report source)
    | .ok n =>
      match Code.compile? n with
      | some code => .ok { source, flags, code }
      | none => .error "Compiled regex exceeds size limit of 10485760 bytes."

def isGlobal (r : Regex) : Bool := hasFlag r.flags 'g'

def isSticky (r : Regex) : Bool := hasFlag r.flags 'y'

/-- Whether a search starts where the one before ended. -/
def isStateful (r : Regex) : Bool := r.isGlobal || r.isSticky

/-- The spelling between slashes. -/
def shown (r : Regex) : String := "/" ++ r.source ++ "/" ++ r.flags

/-- The offset of the character behind the one at an offset, or one more at the end of the text. -/
def nextOffset (text : String) (offset : Nat) : Nat :=
  if Text.isNarrow text then offset + 1
  else offset + (((Text.dropBytes? text.toList offset).bind List.head?).map Char.utf8Size).getD 1

/-- The first match from the last position on, and the position for the next search: behind the match, one
character further if it is empty, and the start if there is none. -/
def exec (r : Regex) (text : String) : Option Groups × Nat :=
  if r.isStateful then
    match Text.byteOf? text r.lastIndex with
    | none => (none, 0)
    | some start =>
      match r.code.findFrom text start with
      | none => (none, 0)
      | some g =>
        if r.isSticky && g.whole.start != start then (none, 0)
        else
          let stop := if g.whole.isEmpty then nextOffset text g.whole.stop else g.whole.stop
          (some g, Text.unitOf text stop)
  else (r.code.findFrom text 0, r.lastIndex)

end Regex

end ScriptCoverage.Pattern
