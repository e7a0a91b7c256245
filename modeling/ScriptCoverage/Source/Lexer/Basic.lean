import ScriptCoverage.Source.Token

/-!
The state of reading tokens. A lexer moves a cursor over the text; it can fail, which spoils a token but
leaves the cursor where the fault was found, and it can note faults that spoil nothing. `Mode` is what
the text around a token says about how it is read.
-/

namespace ScriptCoverage.Source

/-- What decides which words are reserved and which old spellings are refused. -/
structure Mode where
  strict : Bool := false
  isAsync : Bool := false
  isGenerator : Bool := false
  inStaticBlock : Bool := false
  deriving DecidableEq, Repr

/-- How far a text has been read, and the first fault in it that spoils no token. -/
structure Scan where
  cursor : Cursor
  noted : Option Failure := none

/-- The first of the faults noted so far stays. -/
def Scan.note (s : Scan) (f : Failure) : Scan := { s with noted := s.noted.or (some f) }

abbrev Lexer := ReaderT Mode (EStateM Failure Scan)

namespace Lexer

def cursor : Lexer Cursor := return (← get).cursor

def pos : Lexer Nat := return (← cursor).pos

def rest : Lexer (List Char) := return (← cursor).rest

def moveTo (c : Cursor) : Lexer Unit := modify fun s => { s with cursor := c }

/-- Moves on by `n` characters. -/
def skip (n : Nat) : Lexer Unit := modify fun s => { s with cursor := s.cursor.skip n }

/-- Takes the next character if it is `c`. -/
def eat (c : Char) : Lexer Bool := do
  match ← rest with
  | d :: _ =>
    if c == d then
      skip 1
      return true
    else return false
  | [] => return false

/-- Takes characters as long as they are of a class. -/
def takeWhile (p : Char → Bool) : Lexer (List Char) := do
  let cs := (← rest).takeWhile p
  skip cs.length
  return cs

def failAt {α : Type} (offset : Nat) (fault : SyntaxFault) : Lexer α := throw ⟨fault, offset⟩

def failHere {α : Type} (fault : SyntaxFault) : Lexer α := do failAt (← pos) fault

def note (offset : Nat) (fault : SyntaxFault) : Lexer Unit := modify (·.note ⟨fault, offset⟩)

/-- Notes a fault that only strict scripts have. -/
def noteIfStrict (offset : Nat) (fault : SyntaxFault) : Lexer Unit := do
  if (← read).strict then note offset fault

/-- Runs a lexer and, if it fails, goes on from where it stopped. -/
def attempt {α : Type} (p : Lexer α) : Lexer (Except Failure α) := fun m s =>
  match p m s with
  | .ok a s => .ok (.ok a) s
  | .error f s => .ok (.error f) s

/-- The same lexer with its faults reported at another offset. -/
def reportedAt {α : Type} (offset : Nat) (p : Lexer α) : Lexer α := do
  match ← attempt p with
  | .ok a => return a
  | .error f => failAt offset f.fault

end Lexer

end ScriptCoverage.Source
