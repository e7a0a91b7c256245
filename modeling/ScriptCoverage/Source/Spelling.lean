import ScriptCoverage.Source.Tree

/-!
The spelling of operators and of the words that declare variables.
-/

namespace ScriptCoverage.Source

def DeclKind.text : DeclKind → String
  | .var => "var"
  | .let_ => "let"
  | .const => "const"

def UnaryOp.text : UnaryOp → String
  | .not => "!"
  | .neg => "-"
  | .plus => "+"
  | .bitNot => "~"
  | .typeOf => "typeof"
  | .void => "void"
  | .delete => "delete"

def UpdateOp.text : UpdateOp → String
  | .increment => "++"
  | .decrement => "--"

def BinaryOp.text : BinaryOp → String
  | .add => "+"
  | .sub => "-"
  | .mul => "*"
  | .div => "/"
  | .mod => "%"
  | .exp => "**"
  | .eq => "=="
  | .eqStrict => "==="
  | .ne => "!="
  | .neStrict => "!=="
  | .lt => "<"
  | .le => "<="
  | .gt => ">"
  | .ge => ">="
  | .bitAnd => "&"
  | .bitOr => "|"
  | .bitXor => "^"
  | .shl => "<<"
  | .shr => ">>"
  | .ushr => ">>>"
  | .in_ => "in"
  | .instanceOf => "instanceof"

def LogicalOp.text : LogicalOp → String
  | .and => "&&"
  | .or => "||"
  | .nullish => "??"

def InfixOp.text : InfixOp → String
  | .binary op => op.text
  | .logical op => op.text

def AssignOp.text : AssignOp → String
  | .assign => "="
  | .compound op => op.text ++ "="
  | .logical op => op.text ++ "="

def ImportPhase.text : ImportPhase → String
  | .evaluation => "import"
  | .source => "import.source"
  | .defer => "import.defer"

end ScriptCoverage.Source
