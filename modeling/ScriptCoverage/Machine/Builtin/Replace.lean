import ScriptCoverage.Machine.Access
import ScriptCoverage.Text.Cut

/-!
Replacing parts of texts. `splice` puts a text together from the pieces between matches and from what each
match is replaced by; `expand` fills a template with the groups of a match.
-/

namespace ScriptCoverage.Machine

variable {σ : Type}

/-- A part of a text, in bytes, and the texts of its groups, the whole match first. -/
structure Match where
  span : Span
  groups : List (Option String)
  deriving DecidableEq, Inhabited, Repr

namespace Match

/-- The match that a search for a pattern found. -/
def ofGroups (text : String) (g : Pattern.Groups) : Match := ⟨g.whole, g.map fun m => m.bind (·.slice? text)⟩

/-- The first occurrence of a text in another. -/
def ofText? (needle text : String) : Option Match :=
  (Text.before? needle.toList text.toList).map fun before =>
    let start := Text.byteLength before
    ⟨⟨start, start + needle.utf8ByteSize⟩, [some needle]⟩

/-- The text of a group; a group that took no part has none. -/
def group (m : Match) (i : Nat) : List Char := ((m.groups[i]?.join).map String.toList).getD []

end Match

/-- The number of a group that a character behind `$` names. -/
def groupNumber? (m : Match) (c : Char) : Option Nat :=
  let i := c.toNat - '0'.toNat
  if '1' ≤ c && c ≤ '9' && i < m.groups.length then some i else none

/-- A template with `$$`, `$&` and `$1` to `$9` filled in. -/
def expand (m : Match) : List Char → List Char
  | '$' :: c :: cs =>
    if c = '$' then '$' :: expand m cs
    else if c = '&' then m.group 0 ++ expand m cs
    else match groupNumber? m c with
      | some i => m.group i ++ expand m cs
      | none => '$' :: expand m (c :: cs)
  | c :: cs => c :: expand m cs
  | [] => []

namespace Run

/-- A text from an offset on with each match replaced. -/
def splice (text : String) (replaced : Match → Run σ String) (start : Nat) : List Match → Run σ String
  | [] => return ((Text.dropBytes? text.toList start).map String.ofList).getD ""
  | m :: ms => do
    let new ← replaced m
    let rest ← splice text replaced m.span.stop ms
    return (Text.slice? text start m.span.start).getD "" ++ new ++ rest

/-- The matches of a pattern that are replaced: all those of a global regular expression, which starts over,
and the first one of all else. -/
def matchesOf (pattern : Value) (text : String) : Run σ (List Match) := do
  match pattern with
  | .regex r =>
    let x ← see (·.regex r)
    if x.isGlobal then
      change (·.setLastIndex r 0)
      return (x.code.findAll text).map (.ofGroups text)
    else return ((x.code.findFrom text 0).map (Match.ofGroups text)).toList
  | v => return (Match.ofText? (← see (·.text v)) text).toList

/-- What a match is replaced by: the result of a function, or a template that is filled in. -/
def replacementOf (call : Caller σ) (text : String) (replacement : Value) (m : Match) : Run σ String := do
  if replacement.isFunction then
    let groups := m.groups.map fun g => (g.map Value.string).getD .undefined
    let v ← call replacement .undefined
      (groups ++ [.ofNat (Text.unitOf text m.span.start), .string text])
    see (·.text v)
  else return String.ofList (expand m (← see (·.text replacement)).toList)

/-- A text with matches of a pattern replaced. -/
def replace (call : Caller σ) (text : String) (pattern replacement : Value) : Run σ String := do
  splice text (replacementOf call text replacement) 0 (← matchesOf pattern text)

end Run

end ScriptCoverage.Machine
