import ScriptCoverage.Source.Parser.Basic

/-!
Expressions read again as patterns. What stands before `=`, `=>`, `in` or `of` has been read as an
expression by the time that token shows what it is. Most expressions that make no pattern are only noted.
-/

namespace ScriptCoverage.Source

namespace Expr

/-- Whether an expression is an arrow function without parentheses around it. -/
def isArrow : Expr → Bool
  | .lambda .. => true
  | .function (.mk _ .arrow ..) => true
  | _ => false

/-- Whether an optional link occurs in a chain of accesses and calls. -/
def hasOptionalLink : Expr → Bool
  | .member _ optional o _ => optional || o.hasOptionalLink
  | .call _ optional c _ => optional || c.hasOptionalLink
  | _ => false

/-- Whether a value can be assigned to what the expression denotes. -/
def isPlace (strict : Bool) : Expr → Bool
  | .name n => !(strict && (n.text == "eval" || n.text == "arguments"))
  | .superMember .. => true
  | .member s o e k => !(Expr.member s o e k).hasOptionalLink
  | .paren _ e => e.isPlace strict
  | _ => false

/-- Whether an expression has the form of something that can be assigned to, whatever it denotes. -/
def hasPlaceForm : Expr → Bool
  | .name _ | .superMember .. | .member .. | .paren .. => true
  | e => e.hasOptionalLink

/-- Whether an expression is a value on its own, which inside a pattern may at best be assigned to. -/
def isElement : Expr → Bool
  | .name _ | .null _ | .bool .. | .number .. | .bigint .. | .string .. | .regex .. | .template .. | .classDef ..
  | .superCall .. | .importCall .. | .construct .. | .superMember .. | .paren .. => true
  | .function (.mk _ kind ..) => kind == .plain
  | .call s o c as => !(Expr.call s o c as).hasOptionalLink
  | .member s o e k => !(Expr.member s o e k).hasOptionalLink
  | _ => false

def isHole : Expr → Bool
  | .hole => true
  | _ => false

def isAssignment : Expr → Bool
  | .assign .. => true
  | _ => false

end Expr

/-- Where an entry starts. -/
def Entry.start : Entry → Nat
  | .shorthand n => n.span.start
  | .pair k _ => k.span.start
  | .assigned s .. | .spread s _ | .method s .. | .constructor s .. | .field s .. | .initializer s _ | .empty s => s.start

/-- What a pattern is for: new variables, or values that are assigned. -/
inductive PatUse
  | binding | assigning
  deriving DecidableEq

namespace Parser

/-- Notes that an expression is changed that cannot be. -/
def checkPlace (e : Expr) : Parser Unit := do
  if !e.isPlace (← read).strict then note e.span.start .notAssignable

/-- The comma behind the last spread of the literal that starts at an offset, if it has one. -/
def trailingComma? (start : Nat) : Parser (Option Nat) := return (← get).commas.lookup start

/-- Notes that a comma follows the rest of a pattern. -/
def refuseComma (comma : Option Nat) : Parser Unit := do
  if let some offset := comma then note offset .commaAfterRest

end Parser

open ScriptCoverage.Source.Parser

mutual

/-- Reads an expression inside a pattern again as a part of that pattern. -/
def Expr.toPat (use : PatUse) (e : Expr) : Parser Pat := do
  if use == .assigning && e.isElement then
    if !e.isPlace (← read).strict then note e.span.start .notSimple
    match e with
    | .name n => return .name n
    | e => return .inner e
  match e with
  | .name n => return .name n
  | .array s es => .array s <$> Expr.toPats use s.start es
  | .object s es => .object s <$> Entry.toPats use s.start es
  | .assign s .assign (.place t) v =>
    let p ← t.toPat use
    return .init s p (some v)
  | .assign s .assign t v => return .init s t (some v)
  | e =>
    note e.span.start .notPattern
    return .inner e

/-- Reads the elements of the array literal that starts at an offset again. Holes at its end are dropped. -/
def Expr.toPats (use : PatUse) (start : Nat) : List Expr → Parser (List Pat)
  | [] => return []
  | .spread dots e :: es => do
    if !es.isEmpty then
      note dots.start .restNotLast
      Expr.toPats use start es
    else
      if e.isAssignment then note dots.start .restInitializer
      refuseComma (← trailingComma? start)
      let p ← e.toPat use
      return [.rest ⟨dots.start, e.span.stop⟩ p]
  | e :: es => do
    if e.isHole then
      if es.all (·.isHole) then return [] else return .hole :: (← Expr.toPats use start es)
    let p ← e.toPat use
    return p :: (← Expr.toPats use start es)

/-- Reads an entry of the object literal that starts at an offset again as a property of a pattern. -/
def Entry.toPat (use : PatUse) (start : Nat) (last : Bool) : Entry → Parser Pat
  | .shorthand n => return .shorthand n.span n none
  | .assigned s n v => return .shorthand s n (some v)
  | .pair k v => .pair k <$> v.toPat use
  | .spread dots e => do
    if !last then note dots.start .restNotLast else refuseComma (← trailingComma? start)
    match use, e with
    | .binding, .name n => return .rest ⟨dots.start, e.span.stop⟩ (.name n)
    | .binding, _ =>
      note dots.start .restNotName
      return .rest ⟨dots.start, e.span.stop⟩ .hole
    | .assigning, _ =>
      let p ← e.toPat use
      if e.isAssignment then note dots.start .restInitializer
      return .rest ⟨dots.start, e.span.stop⟩ p
  | .method s .. | .constructor s .. | .field s .. | .initializer s _ | .empty s => failAt s.start .notPattern

def Entry.toPats (use : PatUse) (start : Nat) : List Entry → Parser (List Pat)
  | [] => return []
  | e :: es => do
    let p ← e.toPat use start es.isEmpty
    return p :: (← Entry.toPats use start es)

end

namespace Parser

/-- What stands before `=`, or receives the keys or elements of a loop. -/
def toTarget (e : Expr) : Parser Pat := do
  match e with
  | .array .. | .object .. => e.toPat .assigning
  | .name n =>
    checkPlace e
    return .name n
  | e =>
    checkPlace e
    return .inner e

/-- The left side of an assignment, which must have the form of one. -/
def toAssigned (op : AssignOp) (e : Expr) : Parser Pat := do
  match op, e with
  | .assign, .array .. | .assign, .object .. => e.toPat .assigning
  | op, e =>
    if op == .assign then checkPlace e
    else if !e.isPlace (← read).strict then note e.span.start .notSimple
    if e.hasPlaceForm then return .place e else failAt e.span.start .invalidAssignment

/-- The parameters of an arrow function, behind which a comma may stand. The range of a rest parameter
leaves out its dots. -/
def toParams (comma : Option Nat) : List Expr → Parser (List Pat)
  | [] => return []
  | .spread dots e :: es => do
    if !es.isEmpty then
      note dots.start .restParameterNotLast
      toParams comma es
    else
      if e.isAssignment then note dots.start .restInitializer
      refuseComma comma
      return [.rest e.span (← e.toPat .binding)]
  | e :: es => do
    let p ← e.toPat .binding
    return p :: (← toParams comma es)

end Parser

end ScriptCoverage.Source
