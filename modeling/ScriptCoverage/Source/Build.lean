import ScriptCoverage.Source.Tree

/-!
Nodes that were made up rather than read. All of them have the dummy range, and their literals leave the
spelling to the printer.
-/

namespace ScriptCoverage.Source

instance : Inhabited Expr := ⟨.hole⟩

namespace Expr

def ofName (name : String) : Expr := .name ⟨name, .dummy⟩

def ofString (value : String) : Expr := .string .dummy value none

def ofNumber (value : Float) : Expr := .number .dummy value none

def ofCall (callee : Expr) (args : List Expr) : Expr := .call .dummy false callee args

end Expr

def Stmt.ofExpr (e : Expr) : Stmt := .expression .dummy e

end ScriptCoverage.Source
