/-!
Names that may be put into generated code: ASCII letters, digits, `_` and `$`, not starting with a
digit and not reserved. `Identifier.check` says for any text whether it is one, and if not, why.
-/

namespace ScriptCoverage

/-- Why a text is no identifier. The first reason that applies, in this order, is reported. -/
inductive IdentifierFault
  | empty
  | startsWithDigit
  | invalidChar (c : Char)
  | reserved
  deriving DecidableEq, Inhabited, Repr

def IdentifierFault.message : IdentifierFault → String
  | .empty => "identifier cannot be empty"
  | .startsWithDigit => "identifier cannot start with a digit"
  | .invalidChar c => "invalid character '" ++ c.toString ++ "'"
  | .reserved => "reserved word"

namespace Identifier

/-- Words of the language that cannot name anything. -/
def reservedWords : List String :=
  ["break", "case", "catch", "continue", "debugger", "default", "delete", "do", "else", "finally",
    "for", "function", "if", "in", "instanceof", "new", "return", "switch", "this", "throw", "try",
    "typeof", "var", "void", "while", "with", "class", "const", "enum", "export", "extends",
    "import", "super", "implements", "interface", "let", "package", "private", "protected",
    "public", "static", "yield", "await", "null", "true", "false"]

/-- Characters allowed at the first position. -/
def isStart (c : Char) : Bool := c.isAlpha || c == '_' || c == '$'

/-- Characters allowed behind the first position. -/
def isPart (c : Char) : Bool := c.isAlphanum || c == '_' || c == '$'

/-- The first reason why a text is no identifier. -/
def fault? (name : String) : Option IdentifierFault :=
  match name.toList with
  | [] => some .empty
  | c :: cs =>
    if c.isDigit then some .startsWithDigit
    else match (c :: cs).find? (!isPart ·) with
      | some bad => some (.invalidChar bad)
      | none => if reservedWords.contains name then some .reserved else none

end Identifier

/-- A text without a fault. -/
structure Identifier where
  name : String
  valid : Identifier.fault? name = none
  deriving DecidableEq

namespace Identifier

/-- The identifier that a text spells. -/
def check (name : String) : Except IdentifierFault Identifier :=
  match h : fault? name with
  | none => .ok ⟨name, h⟩
  | some f => .error f

end Identifier

end ScriptCoverage
