import ScriptCoverage.Source.Lexer.Blank
import ScriptCoverage.Source.Lexer.Number
import ScriptCoverage.Source.Lexer.Text

/-!
Lexemes, one after the other. `Lexeme.next?` skips blanks and reads one token; what a slash means is left
to the parser, which reads a regular expression itself where an expression may start. `Lexeme.all` reads a
whole text without that help, so it takes every slash for a division; it stops at the first text that is
no token.
-/

namespace ScriptCoverage.Source

/-! ### Punctuators -/

/-- The longest punctuator at the start of a text and its length. -/
def punctuator? : List Char → Option (Punct × Nat)
  | '(' :: _ => some (.opening .round, 1)
  | ')' :: _ => some (.closing .round, 1)
  | '[' :: _ => some (.opening .square, 1)
  | ']' :: _ => some (.closing .square, 1)
  | '\x7b' :: _ => some (.opening .curly, 1)
  | '\x7d' :: _ => some (.closing .curly, 1)
  | '\x60' :: _ => some (.backquote, 1)
  | ';' :: _ => some (.semicolon, 1)
  | ',' :: _ => some (.comma, 1)
  | ':' :: _ => some (.colon, 1)
  | '~' :: _ => some (.tilde, 1)
  | '#' :: _ => some (.hash, 1)
  | '@' :: _ => some (.atSign, 1)
  | '.' :: '.' :: '.' :: _ => some (.ellipsis, 3)
  | '.' :: _ => some (.dot, 1)
  | '?' :: '?' :: '=' :: _ => some (.assign (.logical .nullish), 3)
  | '?' :: '?' :: _ => some (.operator (.logical .nullish), 2)
  | '?' :: _ => some (.question, 1)
  | '=' :: '>' :: _ => some (.arrow, 2)
  | '=' :: '=' :: '=' :: _ => some (.operator (.binary .eqStrict), 3)
  | '=' :: '=' :: _ => some (.operator (.binary .eq), 2)
  | '=' :: _ => some (.assign .assign, 1)
  | '!' :: '=' :: '=' :: _ => some (.operator (.binary .neStrict), 3)
  | '!' :: '=' :: _ => some (.operator (.binary .ne), 2)
  | '!' :: _ => some (.bang, 1)
  | '<' :: '<' :: '=' :: _ => some (.assign (.compound .shl), 3)
  | '<' :: '<' :: _ => some (.operator (.binary .shl), 2)
  | '<' :: '=' :: _ => some (.operator (.binary .le), 2)
  | '<' :: _ => some (.operator (.binary .lt), 1)
  | '>' :: '>' :: '>' :: '=' :: _ => some (.assign (.compound .ushr), 4)
  | '>' :: '>' :: '>' :: _ => some (.operator (.binary .ushr), 3)
  | '>' :: '>' :: '=' :: _ => some (.assign (.compound .shr), 3)
  | '>' :: '>' :: _ => some (.operator (.binary .shr), 2)
  | '>' :: '=' :: _ => some (.operator (.binary .ge), 2)
  | '>' :: _ => some (.operator (.binary .gt), 1)
  | '+' :: '+' :: _ => some (.increment, 2)
  | '+' :: '=' :: _ => some (.assign (.compound .add), 2)
  | '+' :: _ => some (.operator (.binary .add), 1)
  | '-' :: '-' :: _ => some (.decrement, 2)
  | '-' :: '=' :: _ => some (.assign (.compound .sub), 2)
  | '-' :: _ => some (.operator (.binary .sub), 1)
  | '*' :: '*' :: '=' :: _ => some (.assign (.compound .exp), 3)
  | '*' :: '*' :: _ => some (.operator (.binary .exp), 2)
  | '*' :: '=' :: _ => some (.assign (.compound .mul), 2)
  | '*' :: _ => some (.operator (.binary .mul), 1)
  | '/' :: '=' :: _ => some (.assign (.compound .div), 2)
  | '/' :: _ => some (.operator (.binary .div), 1)
  | '%' :: '=' :: _ => some (.assign (.compound .mod), 2)
  | '%' :: _ => some (.operator (.binary .mod), 1)
  | '&' :: '&' :: '=' :: _ => some (.assign (.logical .and), 3)
  | '&' :: '&' :: _ => some (.operator (.logical .and), 2)
  | '&' :: '=' :: _ => some (.assign (.compound .bitAnd), 2)
  | '&' :: _ => some (.operator (.binary .bitAnd), 1)
  | '|' :: '|' :: '=' :: _ => some (.assign (.logical .or), 3)
  | '|' :: '|' :: _ => some (.operator (.logical .or), 2)
  | '|' :: '=' :: _ => some (.assign (.compound .bitOr), 2)
  | '|' :: _ => some (.operator (.binary .bitOr), 1)
  | '^' :: '=' :: _ => some (.assign (.compound .bitXor), 2)
  | '^' :: _ => some (.operator (.binary .bitXor), 1)
  | _ => none

/-! ### One token -/

namespace Lexer

/-- The token that starts with a character, which has some more behind it. -/
def token (c : Char) (cs : List Char) : Lexer Token := do
  if isNameStart c || c == '\\' then word
  else if c.isDigit || (c == '.' && cs.head?.any Char.isDigit) then number
  else if c == '"' || c == '\'' then string c
  else match punctuator? (c :: cs) with
    | some (p, len) =>
      skip len
      return .punct p
    | none =>
      let start ← pos
      skip 1
      failAt start (.unexpectedChar c)

/-- A mark between the versions of a conflict, which is no token, and the blanks behind its line. -/
def conflictBar : Lexer Token := do
  let start ← pos
  note start .conflictMarker
  skip (skipBlanks .line (← rest) { newline := true }).count
  failAt start .conflictMarker

end Lexer

namespace Lexeme

/-- The next token behind a position, if there is one; it may be one that cannot be read. A NUL ends the
text once: who asks again reads on behind it. A line end is taken to stand before the first token. -/
def next? (m : Mode) (s : Scan) : Option Lexeme × Scan :=
  let first := s.cursor
  let blanks := skipBlanks .between first.rest { newline := first.pos == 0 }
  let start := first.skip blanks.count
  let s := { s with cursor := start }
  let s := match blanks.conflict with
    | some n => s.note ⟨.conflictMarker, (first.skip n).pos⟩
    | none => s
  let s := if blanks.unclosed then s.note ⟨.unterminatedComment, start.pos⟩ else s
  match start.rest with
  | [] => (none, s)
  | '\x00' :: _ => (none, { s with cursor := start.skip 1 })
  | c :: cs =>
    let read := if c == '|' && blanks.newline && "|||||| ".toList.isPrefixOf cs then Lexer.conflictBar
      else Lexer.token c cs
    -- a comment of markup in front of a token counts as a part of it
    let begin_ := match blanks.markup with
      | some n => (first.skip n).pos
      | none => start.pos
    let lexeme (token : Token) (s : Scan) : Option Lexeme × Scan :=
      (some ⟨token, ⟨begin_, s.cursor.pos⟩, blanks.newline, start⟩, s)
    match read m s with
    | .ok token s => lexeme token s
    | .error f s => lexeme (.invalid f) s

/-- The chunk of a template that starts at a position. -/
def chunk (m : Mode) (template : Nat) (s : Scan) : Lexeme × Scan :=
  let start := s.cursor
  let lexeme (token : Token) (s : Scan) : Lexeme × Scan := (⟨token, ⟨start.pos, s.cursor.pos⟩, false, start⟩, s)
  match Lexer.chunk template m s with
  | .ok token s => lexeme token s
  | .error f s => lexeme (.invalid f) s

/-- What stands behind a chunk of a template: the closing quote or the start of a substitution. -/
def chunkEnd (s : Scan) : Lexeme × Scan :=
  let start := s.cursor
  let (p, n) : Punct × Nat := if start.rest.head? == some '\x60' then (.backquote, 1) else (.substitution, 2)
  let after := start.skip n
  (⟨.punct p, ⟨start.pos, after.pos⟩, false, start⟩, { s with cursor := after })

/-! ### All tokens -/

/-- What an open bracket belongs to, for finding the bracket that ends a substitution. -/
inductive Frame
  | plain | substitution
  deriving DecidableEq

/-- All lexemes from a position on, up to the end of the text or the first one that cannot be read. With
`inChunk` the position is in the text of a template. The first argument bounds the number of steps. -/
def allFrom : Nat → Bool → List Frame → Scan → List Lexeme
  | 0, _, _, _ => []
  | n + 1, true, frames, s =>
    let (text, s) := chunk {} s.cursor.pos s
    match text.token with
    | .invalid _ => []
    | _ =>
      let (l, s) := chunkEnd s
      if l.token matches .punct .backquote then text :: l :: allFrom n false frames s
      else text :: l :: allFrom n false (.substitution :: frames) s
  | n + 1, false, frames, s =>
    match next? {} s with
    | (none, _) => []
    | (some l, s) =>
      match l.token with
      | .invalid _ => []
      | .punct .backquote => l :: allFrom n true frames s
      | .punct (.opening .round) | .punct (.opening .curly) => l :: allFrom n false (.plain :: frames) s
      -- a closing bracket is taken for that of the last open one, of either kind
      | .punct (.closing .round) | .punct (.closing .curly) =>
        l :: allFrom n (frames.head? == some .substitution) (frames.drop 1) s
      | _ => l :: allFrom n false frames s

/-- All lexemes of a text up to its end or the first one that cannot be read. -/
def all (start : Cursor) : List Lexeme := allFrom (start.rest.length + 1) false [] { cursor := start }

end Lexeme

end ScriptCoverage.Source
