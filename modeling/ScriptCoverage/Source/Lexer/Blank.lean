import ScriptCoverage.Source.Cursor
import ScriptCoverage.Unicode.Class

/-!
Blanks between tokens: spaces, line ends, comments, and the marks that a merge of two versions leaves
behind when they contradict each other.
-/

namespace ScriptCoverage.Source

/-- Characters that only separate tokens, line ends among them. -/
def isSpace (c : Char) : Bool := c == ' ' || c == '\n' || Unicode.isBlank c || c == '\ufeff'

/-- Where a walk over blanks stands: between tokens, in a comment up to the line end, or in one up to `*/`. -/
inductive BlankMode
  | between | line | block
  deriving DecidableEq

/-- What a walk over blanks has seen: the number of characters, the number in front of the first comment
that starts with `<!--` or `-->` or mark of a conflict, the number in front of the first such mark,
whether a line ended, and whether the text ended in a comment. -/
structure Blanks where
  count : Nat := 0
  markup : Option Nat := none
  conflict : Option Nat := none
  newline : Bool
  unclosed : Bool := false

namespace Blanks

/-- The same blanks behind some more characters. -/
def skip (b : Blanks) (n : Nat) : Blanks := { b with count := b.count + n }

/-- The same blanks at the start of a comment of markup. -/
def atMarkup (b : Blanks) : Blanks := { b with markup := b.markup.or (some b.count) }

/-- The same blanks at a mark of a conflict. -/
def atConflict (b : Blanks) : Blanks := { b.atMarkup with conflict := b.conflict.or (some b.count) }

/-- The same blanks behind a character, which may end the line. -/
def behind (b : Blanks) (c : Char) : Blanks := { b with count := b.count + 1, newline := b.newline || isLineEnd c }

end Blanks

/-- Whether a text starts with a line that separates two versions. -/
def startsWithConflict (cs : List Char) : Bool :=
  "=======".toList.isPrefixOf cs || "<<<<<<< ".toList.isPrefixOf cs || ">>>>>>> ".toList.isPrefixOf cs

/-- Skips blanks and comments. `<!--` starts a comment anywhere, `-->` does at the start of a line, and
the rest of a line that starts with a mark of a conflict is skipped too. -/
def skipBlanks : BlankMode → List Char → Blanks → Blanks
  | .between, '/' :: '/' :: cs, b => skipBlanks .line cs (b.skip 2)
  | .between, '/' :: '*' :: cs, b => skipBlanks .block cs (b.skip 2)
  | .between, '<' :: '!' :: '-' :: '-' :: cs, b => skipBlanks .line cs (b.atMarkup.skip 4)
  | .between, '-' :: '-' :: '>' :: cs, b => if b.newline then skipBlanks .line cs (b.atMarkup.skip 3) else b
  | .between, c :: cs, b =>
    if isSpace c then skipBlanks .between cs (b.behind c)
    else if b.newline && (c == '=' || c == '<' || c == '>') && startsWithConflict (c :: cs) then
      skipBlanks .line cs (b.atConflict.skip 1)
    else b
  | .line, c :: cs, b => skipBlanks (if isLineEnd c then .between else .line) cs (b.behind c)
  | .block, '*' :: '/' :: cs, b => skipBlanks .between cs (b.skip 2)
  | .block, c :: cs, b => skipBlanks .block cs (b.behind c)
  | mode, [], b => { b with unclosed := mode == .block }

end ScriptCoverage.Source
