import ScriptCoverage.Pattern.Parser
import ScriptCoverage.Pattern.Tree

/-!
What a written pattern matches under the flags in force. Without the flag `u` sets hold ASCII characters
only: what could match part of a character is refused, and so is all that needs to know about other ones.
-/

namespace ScriptCoverage.Pattern

open Unicode (CodeSet)

/-- Flags in force at a place of a pattern. -/
structure Flags where
  anyCase : Bool := false
  multiLine : Bool := false
  dotAll : Bool := false
  lazyFirst : Bool := false
  unicode : Bool := true
  crlf : Bool := false
  deriving DecidableEq, Inhabited, Repr

namespace Flags

def set (f : Flags) : Flag → Bool → Flags
  | .anyCase, on => { f with anyCase := on }
  | .multiLine, on => { f with multiLine := on }
  | .dotAll, on => { f with dotAll := on }
  | .lazyFirst, on => { f with lazyFirst := on }
  | .unicode, on => { f with unicode := on }
  | .crlf, on => { f with crlf := on }
  | .spaced, _ => f

def apply (f : Flags) (changes : FlagChanges) : Flags := changes.foldl (fun f c => f.set c.1 c.2) f

/-- A set with all cases of its members, if case does not count. -/
def fold (f : Flags) (s : CodeSet) : CodeSet :=
  if !f.anyCase then s else if f.unicode then s.closeCases else s.closeAsciiCases

end Flags

abbrev Meaning := Except Failure

def refuse {α : Type} (fault : Fault) (m : Mark) : Meaning α := throw ⟨fault, m, none⟩

/-! ### Sets -/

/-- Refuses sets of bytes that are more than ASCII characters. -/
def Flags.checked (f : Flags) (m : Mark) (s : CodeSet) : Meaning CodeSet :=
  if f.unicode || s.isAscii then return s else refuse .invalidBytes m

/-- A set with all cases of its members and then the other way round, if it is negated. -/
def Flags.negate (f : Flags) (m : Mark) (negated : Bool) (s : CodeSet) : Meaning CodeSet :=
  let s := f.fold s
  f.checked m (if negated then s.complement else s)

def Flags.property (f : Flags) (m : Mark) (negated : Bool) (q : PropertyQuery) : Meaning CodeSet :=
  if !f.unicode then refuse .unicodeNotAllowed m
  else
    match q.answer with
    | .found s => f.negate m negated s
    | .unknown => refuse .propertyUnknown m
    | .unknownValue => refuse .propertyValueUnknown m

def Flags.shorthand (f : Flags) (m : Mark) (negated : Bool) (k : Shorthand) : Meaning CodeSet :=
  let s := k.set !f.unicode
  f.checked m (if negated then s.complement else s)

/-- The character of a literal; one that is spelled as a byte has to be an ASCII character. -/
def Flags.char (f : Flags) (l : Literal) : Meaning Char :=
  if !f.unicode && l.isByte && 128 ≤ l.char.toNat then refuse .invalidBytes l.mark else return l.char

/-- The character of a literal in brackets. -/
def Flags.setChar (f : Flags) (l : Literal) : Meaning Char := do
  let c ← f.char l
  if !f.unicode && 128 ≤ c.toNat then refuse .unicodeNotAllowed l.mark else return c

def SetOp.apply : SetOp → CodeSet → CodeSet → CodeSet
  | intersection, a, b => a.inter b
  | difference, a, b => a.diff b
  | symmetricDifference, a, b => a.symmDiff b

mutual

/-- The characters of a set. -/
def SetSyntax.set (f : Flags) : SetSyntax → Meaning CodeSet
  | .empty _ => return .empty
  | .literal l => return .singleton (← f.setChar l)
  | .range _ lo hi => return .ofRanges [((← f.setChar lo).toNat, (← f.setChar hi).toNat)]
  | .ascii m negated rs => f.negate m negated (.ofRanges (rs.map fun r => (r.1.toNat, r.2.toNat)))
  | .property m negated q => f.property m negated q
  | .shorthand m negated k => f.shorthand m negated k
  | .bracket m negated s => do f.negate m negated (← s.set f)
  | .union _ ss => return .ofRanges (← SetSyntax.rangesOf f ss)
  | .combined _ op a b => do
    let a ← a.set f
    let b ← b.set f
    return op.apply (f.fold a) (f.fold b)

/-- The ranges of the items of a union. -/
def SetSyntax.rangesOf (f : Flags) : List SetSyntax → Meaning (List (Nat × Nat))
  | [] => return []
  | s :: ss => do
    let first ← s.set f
    return first.toList ++ (← SetSyntax.rangesOf f ss)

end

/-! ### Patterns -/

def Flags.look (f : Flags) : Position → Look
  | .lineStart => if f.multiLine then .lineStart f.crlf else .textStart
  | .lineEnd => if f.multiLine then .lineEnd f.crlf else .textEnd
  | .textStart => .textStart
  | .textEnd => .textEnd
  | .word kind => .word kind !f.unicode

/-- What the dot matches: anything, or anything but line ends. -/
def Flags.dot (f : Flags) (m : Mark) : Meaning CodeSet :=
  if !f.unicode then refuse .invalidBytes m
  else if f.dotAll then return .all
  else if f.crlf then return (CodeSet.ofChars ['\n', '\r']).complement
  else return (CodeSet.singleton '\n').complement

/-- What a literal matches. A character that is no ASCII character has no cases without the flag `u`. -/
def Flags.literal (f : Flags) (l : Literal) : Meaning CodeSet := do return f.fold (.singleton (← f.char l))

mutual

/-- What a pattern matches, and the flags in force behind it. -/
def Syntax.meaning (f : Flags) : Syntax → Meaning (Node × Flags)
  | .empty => return (.empty, f)
  | .flags changes => return (.empty, f.apply changes)
  | .literal l => return (.set (← f.literal l), f)
  | .dot m => return (.set (← f.dot m), f)
  | .position p => return (.look (f.look p), f)
  | .property m negated q => return (.set (← f.property m negated q), f)
  | .shorthand m negated k => return (.set (← f.shorthand m negated k), f)
  | .bracket m negated s => return (.set (← f.negate m negated (← s.set f)), f)
  | .repetition _ min max greedy s => do
    let (n, f) ← s.meaning f
    return (.repeated min max (greedy != f.lazyFirst) n, f)
  | .group _ kind s => do
    match kind with
    | .capturing index =>
      let (n, _) ← s.meaning f
      return (.group index n, f)
    | .plain changes =>
      let (n, _) ← s.meaning (f.apply changes)
      return (n, f)
  | .sequence _ ss => do
    let (ns, f) ← Syntax.meanings f ss
    return (.sequenceOf ns, f)
  | .choice _ ss => do
    let (ns, f) ← Syntax.meanings f ss
    return (.choiceOf ns, f)

/-- What the parts of a sequence or a choice match, in their order. -/
def Syntax.meanings (f : Flags) : List Syntax → Meaning (List Node × Flags)
  | [] => return ([], f)
  | s :: ss => do
    let (n, f) ← s.meaning f
    let (ns, f) ← Syntax.meanings f ss
    return (n :: ns, f)

end

/-- What the pattern that a text spells matches under given flags. -/
def Node.parse (flags : Flags) (pattern : String) : Except Failure Node := do
  let (n, _) ← (← Syntax.parse pattern).meaning flags
  return n

end ScriptCoverage.Pattern
