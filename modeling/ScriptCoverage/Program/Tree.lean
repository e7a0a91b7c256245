import ScriptCoverage.Source.Tree

/-!
Executable programs. They hold what a run needs and no more: parentheses are gone, and whatever cannot be
run has no form here. Each statement and expression keeps the byte range that it was read from. An arrow
with an expression for its body runs as if a `return` of that expression stood there (`Func.block`).
-/

namespace ScriptCoverage.Program

open Source (DeclKind UnaryOp UpdateOp BinaryOp LogicalOp AssignOp)

/-- What an entry of an object literal does with its value: store it, or make it the reading or the
writing half of an accessor. -/
inductive EntryKind
  | init | get | set
  deriving DecidableEq, Inhabited, Repr

mutual

/-- Expressions. A hole stands only in the lists of array literals. -/
inductive Expr
  | hole
  | null (span : Span)
  | bool (span : Span) (value : Bool)
  | number (span : Span) (value : Float)
  | string (span : Span) (value : String)
  | regex (span : Span) (pattern flags : String)
  | template (span : Span) (quasis : List String) (exprs : List Expr)
  | place (p : Place)
  | this (span : Span)
  | array (span : Span) (elements : List Expr)
  | object (span : Span) (entries : List Entry)
  | function (f : Func)
  | unary (span : Span) (op : UnaryOp) (arg : Expr)
  | update (span : Span) (op : UpdateOp) (before : Bool) (target : Place)
  | binary (span : Span) (op : BinaryOp) (left right : Expr)
  | logical (span : Span) (op : LogicalOp) (left right : Expr)
  | assign (span : Span) (op : AssignOp) (target : Place) (value : Expr)
  | conditional (span : Span) (test consequent alternate : Expr)
  | call (span : Span) (callee : Expr) (args : List Expr)
  | construct (span : Span) (callee : Expr) (args : List Expr)
  | sequence (span : Span) (exprs : List Expr)

/-- What can be read and assigned: a name, a property named in the program, a property whose key is computed. -/
inductive Place
  | name (span : Span) (name : String)
  | member (span : Span) (object : Expr) (key : String)
  | index (span : Span) (object key : Expr)

inductive Entry
  | mk (kind : EntryKind) (key : Key) (value : Expr)

inductive Key
  | fixed (text : String)
  | computed (e : Expr)

/-- A function with statements for its body, or an arrow that gives the value of an expression. -/
inductive Func
  | mk (span : Span) (name : Option String) (params : List String) (isArrow : Bool) (body : Block)
  | lambda (span : Span) (params : List String) (value : Expr)

/-- A statement list in braces. -/
inductive Block
  | mk (span : Span) (body : List Stmt)

inductive Declarator
  | mk (span : Span) (name : String) (value : Option Expr)

/-- A clause of a switch; without a test it is the default. -/
inductive Case
  | mk (span : Span) (test : Option Expr) (body : List Stmt)

inductive Handler
  | mk (span : Span) (param : Option String) (body : Block)

/-- The first part of the head of a `for` loop. -/
inductive Init
  | none
  | declare (kind : DeclKind) (decls : List Declarator)
  | value (e : Expr)

/-- What receives each key of a `for`-`in` loop. -/
inductive Receiver
  | declare (kind : DeclKind) (name : String)
  | place (p : Place)

inductive Stmt
  | expression (span : Span) (e : Expr)
  | declare (span : Span) (kind : DeclKind) (decls : List Declarator)
  | function (f : Func)
  | returnValue (span : Span) (arg : Option Expr)
  | branch (span : Span) (test : Expr) (consequent : Stmt) (alternate : Option Stmt)
  | block (b : Block)
  | whileLoop (span : Span) (test : Expr) (body : Stmt)
  | doWhile (span : Span) (body : Stmt) (test : Expr)
  | forLoop (span : Span) (init : Init) (test update : Option Expr) (body : Stmt)
  | forIn (span : Span) (receiver : Receiver) (right : Expr) (body : Stmt)
  | labeled (span : Span) (label : String) (body : Stmt)
  | switch (span : Span) (discriminant : Expr) (cases : List Case)
  | breakTo (span : Span) (label : Option String)
  | continueTo (span : Span) (label : Option String)
  | throwValue (span : Span) (arg : Expr)
  | tryCatch (span : Span) (block : Block) (handler : Option Handler) (finalizer : Option Block)
  | withObject (span : Span) (object : Expr) (body : Stmt)
  | debugger (span : Span)
  | empty (span : Span)

end

instance : Inhabited Expr := ⟨.hole⟩
instance : Inhabited Block := ⟨.mk .dummy []⟩
instance : Inhabited Func := ⟨.mk .dummy none [] false default⟩

/-! ### Parts -/

namespace Block

def span : Block → Span
  | mk s _ => s

def body : Block → List Stmt
  | mk _ b => b

end Block

def Func.span : Func → Span
  | mk s .. | lambda s .. => s

def Place.span : Place → Span
  | name s _ | member s .. | index s .. => s

def Expr.span : Expr → Span
  | hole => .dummy
  | place p => p.span
  | function f => f.span
  | null s | bool s _ | number s _ | string s _ | regex s .. | template s .. | this s | array s _ | object s _
  | unary s .. | update s .. | binary s .. | logical s .. | assign s .. | conditional s .. | call s ..
  | construct s .. | sequence s _ => s

def Stmt.span : Stmt → Span
  | function f => f.span
  | block b => b.span
  | expression s _ | declare s .. | returnValue s _ | branch s .. | whileLoop s .. | doWhile s ..
  | forLoop s .. | forIn s .. | labeled s .. | switch s .. | breakTo s _ | continueTo s _ | throwValue s _
  | tryCatch s .. | withObject s .. | debugger s | empty s => s

namespace Func

def name : Func → Option String
  | mk _ n .. => n
  | lambda .. => none

def params : Func → List String
  | mk _ _ ps .. | lambda _ ps _ => ps

def isArrow : Func → Bool
  | mk _ _ _ a _ => a
  | lambda .. => true

/-- The body; the expression of an arrow stands there as the statement that returns it. -/
def block : Func → Block
  | mk _ _ _ _ b => b
  | lambda _ _ e => .mk e.span [.returnValue e.span (some e)]

def body (f : Func) : List Stmt := f.block.body

end Func

end Program

/-- The statements of a script, ready to be run. -/
structure Program where
  span : Span
  body : List Program.Stmt

end ScriptCoverage
