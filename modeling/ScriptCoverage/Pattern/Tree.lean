import ScriptCoverage.Pattern.Property
import ScriptCoverage.Pattern.Syntax

/-!
What patterns match, as trees: sets of characters, positions, groups, sequences, choices and repetitions.
`Node.repeated` builds repetitions in the form in which the rest of the library expects them.
-/

namespace ScriptCoverage.Pattern

open Unicode (CodeSet)

/-! ### Positions -/

/-- What has to be true of a position. Lines end at line feeds, or at carriage returns and pairs of the two
as well; words have ASCII characters only, or those of all scripts. -/
inductive Look
  | textStart | textEnd
  | lineStart (crlf : Bool) | lineEnd (crlf : Bool)
  | word (kind : WordLook) (ascii : Bool)
  deriving DecidableEq, Inhabited, Repr

/-- Whether a position has what is asked for, given the characters around it. -/
def Look.holds (before after : Option Char) : Look → Bool
  | textStart => before.isNone
  | textEnd => after.isNone
  | lineStart false => before.all (· == '\n')
  | lineEnd false => after.all (· == '\n')
  | lineStart true => before.all fun c => c == '\n' || (c == '\r' && after != some '\n')
  | lineEnd true => after.all fun c => c == '\r' || (c == '\n' && before != some '\r')
  | word kind ascii =>
    let isWord (c : Char) : Bool := if ascii then asciiWordSet.contains c else wordSet.contains c
    let inside := before.any isWord
    let following := after.any isWord
    match kind with
    | .boundary => inside != following
    | .inside => inside == following
    | .start => !inside && following
    | .stop => inside && !following
    | .noneBefore => !inside
    | .noneAfter => !following

/-! ### Patterns -/

inductive Node
  | empty
  | set (s : CodeSet)
  | look (l : Look)
  | group (index : Nat) (n : Node)
  | seq (a b : Node)
  | alt (a b : Node)
  | repetition (min : Nat) (max : Option Nat) (greedy : Bool) (n : Node)
  deriving Inhabited, Repr

namespace Node

/-- Whether a pattern matches nothing but the empty text. -/
def isBlank : Node → Bool
  | empty | look _ => true
  | set .. => false
  | group _ n => n.isBlank
  | seq a b | alt a b => a.isBlank && b.isBlank
  | repetition _ _ _ n => n.isBlank

/-- Whether every match takes at least one character. -/
def consumes : Node → Bool
  | empty | look _ => false
  | set .. => true
  | group _ n => n.consumes
  | seq a b => a.consumes || b.consumes
  | alt a b => a.consumes && b.consumes
  | repetition min _ _ n => min != 0 && n.consumes

/-- A repetition. What matches only the empty text need not be repeated, and what is repeated zero times
is empty, its groups included. -/
def repeated (min : Nat) (max : Option Nat) (greedy : Bool) (n : Node) : Node :=
  let (min, max) := if n.isBlank then (Min.min min 1, some ((max.map (Min.min · 1)).getD 1)) else (min, max)
  if min = 0 && max = some 0 then empty
  else if min = 1 && max = some 1 then n
  else repetition min max greedy n

/-- A sequence; a single part stands for itself. -/
def sequenceOf : List Node → Node
  | [] => empty
  | [n] => n
  | n :: ns => seq n (sequenceOf ns)

/-- A choice with the preferred alternative first. -/
def choiceOf : List Node → Node
  | [] => empty
  | [n] => n
  | n :: ns => alt n (choiceOf ns)

/-- The number of groups up to the last one, the whole match included. -/
def groupCount : Node → Nat
  | empty | set .. | look _ => 1
  | group i n => Max.max (i + 1) n.groupCount
  | seq a b | alt a b => Max.max a.groupCount b.groupCount
  | repetition _ _ _ n => n.groupCount

end Node

end ScriptCoverage.Pattern
