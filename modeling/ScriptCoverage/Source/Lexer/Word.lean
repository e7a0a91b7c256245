import ScriptCoverage.Source.Lexer.Escape
import ScriptCoverage.Unicode.Class

/-!
Words. `isReserved` tells which words name nothing; for some of them that depends on the text around.
-/

namespace ScriptCoverage.Source

/-! ### Reserved words -/

/-- Words that name nothing anywhere. -/
def isKeyword (w : String) : Bool :=
  ["break", "case", "catch", "class", "const", "continue", "debugger", "default", "delete", "do",
    "else", "enum", "export", "extends", "finally", "for", "function", "if", "import", "in",
    "instanceof", "new", "return", "super", "switch", "this", "throw", "try", "typeof", "var", "void",
    "while", "with", "null", "true", "false"].contains w

/-- Words kept for later, which name nothing in strict scripts. -/
def isFutureKeyword (w : String) : Bool :=
  ["implements", "interface", "package", "private", "protected", "public"].contains w

/-- Whether a word names nothing where the mode is `m`. -/
def isReserved (m : Mode) (w : String) : Bool :=
  match w with
  | "let" => m.strict
  | "await" => m.isAsync || m.inStaticBlock
  | "yield" => m.isGenerator || m.strict
  | w => isKeyword w || (m.strict && isFutureKeyword w)

/-- Keywords that may name something where they are not reserved. -/
def isContextual (w : String) : Bool := w == "let" || w == "await" || w == "yield"

/-! ### Characters -/

def isNameStart (c : Char) : Bool :=
  Identifier.isStart c || (128 ≤ c.toNat && Unicode.isIdStart c)

def isNamePart (c : Char) : Bool :=
  Identifier.isPart c || (128 ≤ c.toNat && (Unicode.isIdContinue c || c == '\u200c' || c == '\u200d'))

namespace Lexer

/-- An escape in a word. It must stand for a character that a word may have behind its first one, but one
that does not is only noted. -/
def nameEscape : Lexer (List Char) := do
  let start ← pos
  skip 1
  if (← rest).head? != some 'u' then failAt start .escapeExpected
  let cs ← unicodeEscape
  if !cs.head?.any isNamePart then note start .invalidNameChar
  return cs

/-- The parts of a word from an escape on. The first argument bounds the number of escapes. -/
def escapedParts : Nat → Lexer (List Char)
  | 0 => return []
  | n + 1 => do
    match ← rest with
    | '\\' :: _ =>
      let cs ← nameEscape
      let plain ← takeWhile isNamePart
      return cs ++ plain ++ (← escapedParts n)
    | _ => return []

/-- The characters of a word, and whether there is an escape in it. -/
def nameText : Lexer (List Char × Bool) := do
  let plain ← takeWhile isNamePart
  match ← rest with
  | '\\' :: cs => return (plain ++ (← escapedParts (cs.length + 1)), true)
  | _ => return (plain, false)

/-- A word. Its escapes may not spell a reserved word, unless the first of them starts the word. -/
def word : Lexer Token := do
  let start ← cursor
  let (cs, hasEscape) ← nameText
  let w := String.ofList cs
  let escaped := start.rest.head? == some '\\'
  if hasEscape && !escaped && isReserved (← read) w then failAt start.pos (.escapedKeyword w)
  return .word w escaped

/-- The letters behind a regular expression. -/
def flags : Lexer (List Char) := do
  if (← rest).head?.any isNameStart then return (← nameText).1 else return []

end Lexer

end ScriptCoverage.Source
