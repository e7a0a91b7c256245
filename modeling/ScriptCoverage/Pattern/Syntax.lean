import ScriptCoverage.Pattern.Error

/-!
Patterns as they are written. Every part that a report may point at carries its marks; what a part matches
is decided later, because it depends on the flags in force.
-/

namespace ScriptCoverage.Pattern

/-! ### Single characters -/

/-- A character as it is written. One that is spelled with two hexadecimal digits may stand for a byte. -/
structure Literal where
  mark : Mark
  char : Char
  isByte : Bool := false
  deriving DecidableEq, Inhabited, Repr

/-! ### Sets of characters -/

/-- How a pattern asks for a property: by a name, or by the value of a named one. -/
inductive PropertyQuery
  | named (name : List Char)
  | valued (name value : List Char) (equal : Bool)
  deriving DecidableEq, Inhabited, Repr

/-- The sets that have a letter of their own. -/
inductive Shorthand
  | digit | space | word
  deriving DecidableEq, Inhabited, Repr

/-- How two sets are combined. -/
inductive SetOp
  | intersection | difference | symmetricDifference
  deriving DecidableEq, Inhabited, Repr

/-- A set of characters as it is written inside brackets. -/
inductive SetSyntax
  | empty (mark : Mark)
  | literal (l : Literal)
  | range (mark : Mark) (lo hi : Literal)
  | ascii (mark : Mark) (negated : Bool) (ranges : List (Char × Char))
  | property (mark : Mark) (negated : Bool) (query : PropertyQuery)
  | shorthand (mark : Mark) (negated : Bool) (kind : Shorthand)
  | bracket (mark : Mark) (negated : Bool) (body : SetSyntax)
  | union (mark : Mark) (items : List SetSyntax)
  | combined (mark : Mark) (op : SetOp) (left right : SetSyntax)
  deriving Inhabited, Repr

def SetSyntax.mark : SetSyntax → Mark
  | empty m | range m .. | ascii m .. | property m .. | shorthand m .. | bracket m .. | union m .. | combined m .. => m
  | literal l => l.mark

/-- One set of the items between brackets, of which a single one stands for itself. -/
def SetSyntax.ofItems (here : Nat) : List SetSyntax → SetSyntax
  | [] => empty ⟨here, here⟩
  | [s] => s
  | s :: ss => union ⟨s.mark.start, ((ss.getLast?.getD s).mark).stop⟩ (s :: ss)

/-! ### Positions -/

/-- The kinds of word boundaries. -/
inductive WordLook
  | boundary | inside | start | stop | noneBefore | noneAfter
  deriving DecidableEq, Inhabited, Repr

/-- A position as it is written. -/
inductive Position
  | lineStart | lineEnd | textStart | textEnd | word (kind : WordLook)
  deriving DecidableEq, Inhabited, Repr

/-! ### Patterns -/

/-- The flags that a pattern can turn on and off. -/
inductive Flag
  | anyCase | multiLine | dotAll | lazyFirst | unicode | crlf | spaced
  deriving DecidableEq, Inhabited, Repr

/-- Flags with what becomes of them. -/
abbrev FlagChanges := List (Flag × Bool)

inductive GroupKind
  | capturing (index : Nat)
  | plain (changes : FlagChanges)
  deriving DecidableEq, Inhabited, Repr

inductive Syntax
  | empty
  | flags (changes : FlagChanges)
  | literal (l : Literal)
  | dot (mark : Mark)
  | position (p : Position)
  | property (mark : Mark) (negated : Bool) (query : PropertyQuery)
  | shorthand (mark : Mark) (negated : Bool) (kind : Shorthand)
  | bracket (mark : Mark) (negated : Bool) (body : SetSyntax)
  | repetition (mark : Mark) (min : Nat) (max : Option Nat) (greedy : Bool) (s : Syntax)
  | group (mark : Mark) (kind : GroupKind) (s : Syntax)
  | sequence (mark : Mark) (parts : List Syntax)
  | choice (mark : Mark) (choices : List Syntax)
  deriving Inhabited, Repr

namespace Syntax

/-- A sequence, of which a single part stands for itself. -/
def ofParts (mark : Mark) : List Syntax → Syntax
  | [] => empty
  | [s] => s
  | ss => sequence mark ss

/-- Whether a repetition may follow. -/
def isRepeatable : Syntax → Bool
  | empty | flags _ => false
  | _ => true

end Syntax

/-! ### Nesting -/

/-- How deep patterns may be nested. -/
def maxNesting : Nat := 250

mutual

/-- The outermost part of a set that is nested too deep, given the number of parts around it. -/
def SetSyntax.tooDeep? (depth : Nat) : SetSyntax → Option Mark
  | .empty _ | .literal _ | .range .. | .ascii .. | .property .. | .shorthand .. => none
  | .bracket m _ s => if depth < maxNesting then s.tooDeep? (depth + 1) else some m
  | .union m ss => if depth < maxNesting then SetSyntax.tooDeepIn? (depth + 1) ss else some m
  | .combined m _ a b =>
    if depth < maxNesting then (a.tooDeep? (depth + 1)).or (b.tooDeep? (depth + 1)) else some m

/-- The same for the items of a union. -/
def SetSyntax.tooDeepIn? (depth : Nat) : List SetSyntax → Option Mark
  | [] => none
  | s :: ss => (s.tooDeep? depth).or (SetSyntax.tooDeepIn? depth ss)

end

mutual

/-- The outermost part of a pattern that is nested too deep, given the number of parts around it. -/
def Syntax.tooDeep? (depth : Nat) : Syntax → Option Mark
  | .empty | .flags _ | .literal _ | .dot _ | .position _ | .property .. | .shorthand .. => none
  | .bracket m _ s => if depth < maxNesting then s.tooDeep? (depth + 1) else some m
  | .repetition m _ _ _ s | .group m _ s => if depth < maxNesting then s.tooDeep? (depth + 1) else some m
  | .sequence m ss | .choice m ss => if depth < maxNesting then Syntax.tooDeepIn? (depth + 1) ss else some m

/-- The same for the parts of a sequence or a choice. -/
def Syntax.tooDeepIn? (depth : Nat) : List Syntax → Option Mark
  | [] => none
  | s :: ss => (s.tooDeep? depth).or (Syntax.tooDeepIn? depth ss)

end

end ScriptCoverage.Pattern
