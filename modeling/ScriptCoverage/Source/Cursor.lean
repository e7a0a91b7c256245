import ScriptCoverage.Span

/-!
Positions in a source text. A cursor holds the characters that are still to come and counts the bytes
before them, so that a range of the text is the difference of two cursors.
-/

namespace ScriptCoverage.Source

/-- The rest of a text and the number of bytes before it. -/
structure Cursor where
  rest : List Char
  pos : Nat
  deriving Inhabited

namespace Cursor

def ofString (s : String) : Cursor := ⟨s.toList, 0⟩

/-- The position behind the next `n` characters. -/
def skip (c : Cursor) (n : Nat) : Cursor :=
  ⟨c.rest.drop n, c.pos + Text.byteLength (c.rest.take n)⟩

/-- The characters that start within the first `n` bytes. -/
def bytesPrefix : Nat → List Char → List Char
  | _, [] => []
  | n, c :: cs => if n = 0 then [] else c :: bytesPrefix (n - c.utf8Size) cs

/-- The text between two positions. -/
def upTo (c d : Cursor) : String := String.ofList (bytesPrefix (d.pos - c.pos) c.rest)

end Cursor

/-- Characters that end a line. -/
def isLineEnd (c : Char) : Bool := c == '\n' || c == '\r' || c == '\u2028' || c == '\u2029'

/-- The start of a script: behind a first line that starts with `#!`, which is no part of the language. -/
def Cursor.afterInterpreterLine (c : Cursor) : Cursor × Option String :=
  match c.rest with
  | '#' :: '!' :: cs =>
    let line := cs.takeWhile (!isLineEnd ·)
    (c.skip (line.length + 2), some (String.ofList line))
  | _ => (c, none)

end ScriptCoverage.Source
