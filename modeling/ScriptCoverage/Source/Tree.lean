import ScriptCoverage.Span

/-!
The syntax tree of a script: every form of the language, each with its byte range. Literals keep
the text they were written with and parentheses are nodes of their own, so that a printed tree
spells the program as its author did. Literals without a written text were made up, and the printer
chooses their spelling.
-/

namespace ScriptCoverage.Source

/-! ### Leaves -/

/-- A name and the place where it stands. -/
structure Name where
  text : String
  span : Span
  deriving DecidableEq, Inhabited, Repr

/-- One chunk of text of a template. `cooked` is its value with escapes resolved, if they are all valid. -/
structure Quasi where
  span : Span
  cooked : Option String
  raw : String
  deriving DecidableEq, Inhabited, Repr

/-- The keyword of a variable declaration. -/
inductive DeclKind
  | var | let_ | const
  deriving DecidableEq, Inhabited, Repr

inductive UnaryOp
  | not | neg | plus | bitNot | typeOf | void | delete
  deriving DecidableEq, Inhabited, Repr

inductive UpdateOp
  | increment | decrement
  deriving DecidableEq, Inhabited, Repr

/-- Operators that evaluate both operands. -/
inductive BinaryOp
  | add | sub | mul | div | mod | exp
  | eq | eqStrict | ne | neStrict
  | lt | le | gt | ge
  | bitAnd | bitOr | bitXor
  | shl | shr | ushr
  | in_ | instanceOf
  deriving DecidableEq, Inhabited, Repr

/-- Operators that may skip their right operand. -/
inductive LogicalOp
  | and | or | nullish
  deriving DecidableEq, Inhabited, Repr

/-- An operator between two operands. -/
inductive InfixOp
  | binary (op : BinaryOp)
  | logical (op : LogicalOp)
  deriving DecidableEq, Inhabited, Repr

inductive AssignOp
  | assign
  | compound (op : BinaryOp)
  | logical (op : LogicalOp)
  deriving DecidableEq, Inhabited, Repr

/-- How far an imported module is brought in. -/
inductive ImportPhase
  | evaluation | source | defer
  deriving DecidableEq, Inhabited, Repr

/-- How a function is written. Arrows take `this` and `arguments` from the function around them. -/
inductive FuncKind
  | plain | arrow
  deriving DecidableEq, Inhabited, Repr

/-- How the value of a method is reached: by a call, by a read or by a write. -/
inductive MethodKind
  | method | getter | setter
  deriving DecidableEq, Inhabited, Repr

/-! ### The tree -/

mutual

/-- Expressions. The last two forms stand only in lists of arguments and of array elements. -/
inductive Expr
  | name (n : Name)
  | this (span : Span)
  | null (span : Span)
  | bool (span : Span) (value : Bool)
  | number (span : Span) (value : Float) (raw : Option String)
  | bigint (span : Span) (raw : String)
  | string (span : Span) (value : String) (raw : Option String)
  | regex (span : Span) (pattern flags : String)
  | template (span : Span) (quasis : List Quasi) (exprs : List Expr)
  | tagged (span : Span) (tag : Expr) (quasis : List Quasi) (exprs : List Expr)
  | array (span : Span) (elements : List Expr)
  | object (span : Span) (entries : List Entry)
  | function (f : Func)
  | lambda (span : Span) (isAsync : Bool) (params : List Pat) (value : Expr)
  | classDef (span : Span) (n : Option Name) (base : Option Expr) (members : List Entry)
  | unary (span : Span) (op : UnaryOp) (arg : Expr)
  | update (span : Span) (op : UpdateOp) (before : Bool) (arg : Expr)
  | operation (span : Span) (op : InfixOp) (left right : Expr)
  | assign (span : Span) (op : AssignOp) (target : Pat) (value : Expr)
  | conditional (span : Span) (test consequent alternate : Expr)
  | call (span : Span) (optional : Bool) (callee : Expr) (args : List Expr)
  | superCall (span : Span) (args : List Expr)
  | importCall (span : Span) (phase : ImportPhase) (args : List Expr)
  | construct (span : Span) (callee : Expr) (called : Bool) (args : List Expr)
  | member (span : Span) (optional : Bool) (object : Expr) (key : Key)
  | superMember (span : Span) (key : Key)
  | sequence (span : Span) (exprs : List Expr)
  | paren (span : Span) (inner : Expr)
  | yield (span : Span) (delegate : Bool) (arg : Option Expr)
  | await (span : Span) (arg : Expr)
  | newTarget (span : Span)
  | importMeta (span : Span)
  | hash (n : Name)
  | spread (dots : Span) (arg : Expr)
  | hole

/-- What an entry, a class member or a member access is named by. -/
inductive Key
  | name (n : Name)
  | string (span : Span) (value : String) (raw : Option String)
  | number (span : Span) (value : Float) (raw : Option String)
  | bigint (span : Span) (raw : String)
  | computed (span : Span) (e : Expr)
  | hash (n : Name)

/-- Entries of object literals and members of classes. `assigned` is the form `a = 1`, which only
an object pattern may keep; the forms from `constructor` on stand only in classes. -/
inductive Entry
  | shorthand (n : Name)
  | assigned (span : Span) (n : Name) (value : Expr)
  | pair (key : Key) (value : Expr)
  | spread (dots : Span) (arg : Expr)
  | method (span : Span) (isStatic : Bool) (kind : MethodKind) (key : Key) (f : Func)
  | constructor (span : Span) (key : Key) (f : Func)
  | field (span : Span) (isStatic : Bool) (key : Key) (value : Option Expr)
  | initializer (span : Span) (body : Block)
  | empty (span : Span)

/-- What a value is bound or assigned to. `place` is a whole assignment target and `inner` an
assignment target inside a pattern; `pair` and `shorthand` stand only in object patterns, and
`hole` marks a skipped element or an absent parameter. -/
inductive Pat
  | name (n : Name)
  | hole
  | array (span : Span) (elements : List Pat)
  | object (span : Span) (props : List Pat)
  | pair (key : Key) (target : Pat)
  | shorthand (span : Span) (n : Name) (value : Option Expr)
  | init (span : Span) (target : Pat) (value : Option Expr)
  | rest (span : Span) (target : Pat)
  | place (e : Expr)
  | inner (e : Expr)

/-- A function with a block body. Its range starts at `function`, `async`, or the key of a method. -/
inductive Func
  | mk (span : Span) (kind : FuncKind) (n : Option Name) (isAsync isGenerator : Bool)
      (params : List Pat) (body : Block)

/-- A statement list in braces. -/
inductive Block
  | mk (span : Span) (body : List Stmt)

/-- A clause of a switch; without a test it is the default. -/
inductive Case
  | mk (span : Span) (test : Option Expr) (body : List Stmt)

/-- A catch clause; its parameter is a hole if it binds nothing. -/
inductive Handler
  | mk (span : Span) (param : Pat) (body : Block)

/-- The first part of the head of a `for` loop, or what receives each key or element. -/
inductive Head
  | none
  | declare (span : Span) (kind : DeclKind) (decls : List Pat)
  | value (e : Expr)
  | target (p : Pat)

inductive Stmt
  | expression (span : Span) (e : Expr)
  | block (b : Block)
  | empty (span : Span)
  | debugger (span : Span)
  | withObject (span : Span) (object : Expr) (body : Stmt)
  | returnValue (span : Span) (arg : Option Expr)
  | labeled (span : Span) (label : Name) (body : Stmt)
  | breakTo (span : Span) (label : Option Name)
  | continueTo (span : Span) (label : Option Name)
  | branch (span : Span) (test : Expr) (consequent : Stmt) (alternate : Option Stmt)
  | switch (span : Span) (discriminant : Expr) (cases : List Case)
  | throwValue (span : Span) (arg : Expr)
  | tryCatch (span : Span) (block : Block) (handler : Option Handler) (finalizer : Option Block)
  | whileLoop (span : Span) (test : Expr) (body : Stmt)
  | doWhile (span : Span) (body : Stmt) (test : Expr)
  | forLoop (span : Span) (init : Head) (test update : Option Expr) (body : Stmt)
  | forIn (span : Span) (head : Head) (right : Expr) (body : Stmt)
  | forOf (span : Span) (isAwait : Bool) (head : Head) (right : Expr) (body : Stmt)
  | declare (span : Span) (kind : DeclKind) (decls : List Pat)
  | function (f : Func)
  | classDef (span : Span) (n : Name) (base : Option Expr) (members : List Entry)

end

/-- A whole script. `interpreter` is what stands behind `#!` on its first line, if that is how it starts. -/
structure Script where
  span : Span
  interpreter : Option String := none
  body : List Stmt

end ScriptCoverage.Source
