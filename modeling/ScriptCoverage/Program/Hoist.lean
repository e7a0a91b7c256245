import ScriptCoverage.Program.Tree

/-!
What a body declares before it runs: its variables and its functions, in the order in which they stand in the
text, from statements at any depth, but not from functions inside the body.
-/

namespace ScriptCoverage.Program

/-- A declaration that takes effect before the body runs. -/
inductive Declared
  | variable (name : String)
  | function (name : String) (decl : Func)
  deriving Inhabited

namespace Declared

/-- The variables of a declaration with `var`; names declared with `let` and `const` come into being when
control reaches them. -/
def ofDeclarators : Source.DeclKind → List Declarator → List Declared
  | .var, ds => ds.map fun | .mk _ name _ => .variable name
  | .let_, _ | .const, _ => []

def ofInit : Init → List Declared
  | .declare kind ds => ofDeclarators kind ds
  | .none | .value _ => []

def ofReceiver : Receiver → List Declared
  | .declare .var name => [.variable name]
  | .declare .. | .place _ => []

def ofFunction (f : Func) : List Declared :=
  match f.name with
  | some name => [.function name f]
  | none => []

mutual

def ofStmt : Stmt → List Declared
  | .declare _ kind ds => ofDeclarators kind ds
  | .function f => ofFunction f
  | .branch _ _ c a => ofStmt c ++ ofOption a
  | .block b => ofBlock b
  | .whileLoop _ _ b | .doWhile _ b _ | .labeled _ _ b | .withObject _ _ b => ofStmt b
  | .forLoop _ i _ _ b => ofInit i ++ ofStmt b
  | .forIn _ r _ b => ofReceiver r ++ ofStmt b
  | .switch _ _ cs => ofCases cs
  | .tryCatch _ b h f => ofBlock b ++ ofHandler h ++ ofBlockOption f
  | .expression .. | .returnValue .. | .breakTo .. | .continueTo .. | .throwValue .. | .debugger _ | .empty _ => []

def ofOption : Option Stmt → List Declared
  | none => []
  | some s => ofStmt s

/-- What a list of statements declares. -/
def ofBody : List Stmt → List Declared
  | [] => []
  | s :: ss => ofStmt s ++ ofBody ss

def ofBlock : Block → List Declared
  | .mk _ b => ofBody b

def ofBlockOption : Option Block → List Declared
  | none => []
  | some b => ofBlock b

def ofCase : Case → List Declared
  | .mk _ _ b => ofBody b

def ofCases : List Case → List Declared
  | [] => []
  | c :: cs => ofCase c ++ ofCases cs

def ofHandler : Option Handler → List Declared
  | none => []
  | some (.mk _ _ b) => ofBlock b

end

end Declared

end ScriptCoverage.Program
