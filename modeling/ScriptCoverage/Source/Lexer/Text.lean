import ScriptCoverage.Source.Lexer.Word

/-!
Texts in a script: strings, the chunks of a template, and regular expressions. A string that is not
closed ends with its line and is a string all the same; a template that is not closed is no token.
-/

namespace ScriptCoverage.Source

namespace Lexer

/-! ### Strings -/

/-- Takes the quote that closes a string, or finds that none does. -/
def closeString (quote : Char) (start : Nat) : Lexer Unit := do
  if !(← eat quote) then note start .unterminatedString

/-- Takes characters of a string that stand for themselves. -/
def plainString (quote : Char) : Lexer (List Char) :=
  takeWhile fun c => c != quote && c != '\\' && c != '\n' && c != '\r'

/-- The parts of a string from an escape on, behind what has been read, all reversed. The first argument
bounds the number of escapes. -/
def stringParts (quote : Char) : Nat → List Char → Lexer (List Char)
  | 0, read => return read
  | n + 1, read => do
    match ← rest with
    | '\\' :: _ =>
      let read := (← escape false).reverseAux read
      stringParts quote n ((← plainString quote).reverseAux read)
    | _ => return read

/-- A string, whose quote comes next. -/
def string (quote : Char) : Lexer Token := do
  let start ← cursor
  skip 1
  let plain ← plainString quote
  let cs ← match ← rest with
    | '\\' :: cs => List.reverse <$> stringParts quote (cs.length + 1) plain.reverse
    | _ => pure plain
  closeString quote start.pos
  return .string (String.ofList cs) (start.upTo (← cursor))

/-! ### Templates -/

/-- Whether a text starts with what ends a chunk of a template. -/
def endsChunk : List Char → Bool
  | '\x60' :: _ => true
  | '$' :: '\x7b' :: _ => true
  | _ => false

/-- Takes characters of a template that stand for themselves. -/
def plainChunk : Lexer (List Char) :=
  takeWhile fun c => c != '\x60' && c != '$' && c != '\\' && c != '\r'

/-- The parts of a chunk of a template that starts at `start`, up to the quote or substitution that ends
it, behind what has been read, all reversed. Bad escapes only leave the chunk without a value. The second
argument bounds the number of parts. -/
def chunkParts (start : Nat) : Nat → Except Failure (List Char) → Lexer (Except Failure (List Char))
  | 0, _ => failAt start .unterminatedTemplate
  | n + 1, read => do
    let read ← match ← rest with
      | [] => failAt start .unterminatedTemplate
      | '\\' :: _ =>
        match ← attempt (escape true) with
        | .ok ds => pure (read.map ds.reverseAux)
        | .error f => pure (.error f)
      | '\r' :: ds =>
        skip (if ds.head? == some '\n' then 2 else 1)
        pure (read.map ('\n' :: ·))
      | c :: _ =>
        skip 1
        pure (read.map (c :: ·))
    let plain ← plainChunk
    let read := read.map plain.reverseAux
    if endsChunk (← rest) then return read else chunkParts start n read

/-- A chunk of the template that starts at an offset. -/
def chunk (template : Nat) : Lexer Token := do
  let start ← cursor
  let plain ← plainChunk
  let cs ← rest
  let cooked ← if endsChunk cs then pure (.ok plain)
    else (·.map List.reverse) <$> chunkParts template (cs.length + 1) (.ok plain.reverse)
  return .chunk (cooked.map String.ofList) (start.upTo (← cursor))

/-! ### Regular expressions -/

/-- Number of characters of the body of a regular expression, and whether a slash outside of brackets
ends it before the line does. -/
def regexBody : (inClass escaped : Bool) → List Char → Nat → Nat × Bool
  | inClass, escaped, c :: cs, n =>
    if isLineEnd c then (n, false)
    else if escaped then regexBody inClass false cs (n + 1)
    else if c == '/' && !inClass then (n, true)
    else regexBody (if c == '[' then true else if c == ']' then false else inClass) (c == '\\') cs (n + 1)
  | _, _, [], n => (n, false)

/-- The body and the flags of a regular expression, whose first slash comes next. -/
def regex : Lexer (String × String) := do
  let start ← pos
  skip 1
  let body ← rest
  let (n, closed) := regexBody false false body 0
  skip n
  if !closed then failAt start .unterminatedRegex
  skip 1
  return (String.ofList (body.take n), String.ofList (← flags))

end Lexer

end ScriptCoverage.Source
