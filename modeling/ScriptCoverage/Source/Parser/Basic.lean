import ScriptCoverage.Source.Lexeme
import ScriptCoverage.Source.Node

/-!
The state of reading a script and its elementary steps. A parser looks at one lexeme, sometimes at the
one behind it, and reads neither before it looks, because a directive may change how it is read. It fails
with the fault that ends the reading, and notes faults that it can go on behind; of those the first one
counts. `Grammar` holds the productions that refer back to themselves, for one level of nesting less.
-/

namespace ScriptCoverage.Source

/-! ### Context and state -/

/-- What surrounds the text being read. `allowIn` tells whether `in` is an operator, `ownThis` whether
there is a function around that is no arrow, and `inField` whether the value of a class field is read. -/
structure Context extends Mode where
  allowIn : Bool := false
  inFunction : Bool := false
  inParameters : Bool := false
  inField : Bool := false
  ownThis : Bool := false
  hasSuper : Bool := false
  breakable : Bool := false
  inLoop : Bool := false
  inForHead : Bool := false
  inForAwaitHead : Bool := false
  labels : List String := []

/-- How far a script has been read. `cur` and `next` are lexemes that have been looked at, `prev` is the
range of the last one taken, `arrowAt` is where an arrow function may start, `templateAt` where the last
template starts, and `commas` lists the literals that end in a comma behind a spread, with that comma. -/
structure Reader extends Scan where
  cur : Option Lexeme := none
  next : Option Lexeme := none
  prev : Span
  arrowAt : Option Nat := none
  templateAt : Nat := 0
  commas : List (Nat × Nat) := []

abbrev Parser := ReaderT Context (EStateM Failure Reader)

/-- The productions that occur inside themselves. A statement is told whether it may be a declaration and
whether it stands at the top level. No more than two uses come between one token and the next, so twice
as many levels as a text has characters suffice. -/
structure Grammar where
  bound : Nat
  statement : (declarations top : Bool) → Parser Stmt
  assignment : Parser Expr
  unary : Parser Expr
  leftHandSide : Parser Expr
  target : (refuseLet : Bool) → Parser Pat

namespace Parser

/-! ### Looking at tokens -/

/-- The current lexeme, or nothing if the text is over. -/
def look : Parser (Option Lexeme) := fun ctx r =>
  match r.cur with
  | some l => .ok (some l) r
  | none =>
    match r.next with
    | some l => .ok (some l) { r with cur := some l, next := none }
    | none =>
      let (l, s) := Lexeme.next? ctx.toMode r.toScan
      .ok l { r with toScan := s, cur := l }

/-- The lexeme behind the current one, or nothing if the text is over. -/
def peek : Parser (Option Lexeme) := fun ctx r =>
  match r.next with
  | some l => .ok (some l) r
  | none =>
    let (l, s) := Lexeme.next? ctx.toMode r.toScan
    .ok l { r with toScan := s, next := l }

def isPunct (p : Punct) : Option Lexeme → Bool
  | some { token := .punct q, .. } => p == q
  | _ => false

/-- Whether a lexeme is a given word, which does not start with an escape. -/
def isWord (w : String) : Option Lexeme → Bool
  | some { token := .word v false, .. } => v == w
  | _ => false

def atPunct (p : Punct) : Parser Bool := return isPunct p (← look)

def atWord (w : String) : Parser Bool := return isWord w (← look)

def atEnd : Parser Bool := return (← look).isNone

/-- Where the current token starts, or the last one ends if the text is over. -/
def pos : Parser Nat := do
  match ← look with
  | some l => return l.span.start
  | none => return (← get).prev.stop

/-- Where a fault is reported: at the current token if it has been looked at, else at the last one. -/
def faultPos : Parser Nat := do
  let r ← get
  match r.cur with
  | some l => return l.span.start
  | none => return r.prev.start

/-- Whether a line ends before the current token; the end of the text ends a line. -/
def newlineBefore : Parser Bool := do
  match ← look with
  | some l => return l.newline
  | none => return true

/-- The text of the current token in messages. -/
def shownToken : Parser String := do
  match ← look with
  | some l => return l.shown
  | none => return "<eof>"

/-- The range from a position to the end of the last token. -/
def spanFrom (start : Nat) : Parser Span := return ⟨start, (← get).prev.stop⟩

/-! ### Moving on -/

/-- Takes the current token, which has been looked at. -/
def advance : Parser Unit :=
  modify fun r =>
    match r.cur, r.next with
    | some l, _ => { r with cur := none, prev := l.span }
    | none, some l => { r with next := none, prev := l.span }
    | none, none => r

/-- Takes the current token if it is `p`. -/
def eat (p : Punct) : Parser Bool := do
  if ← atPunct p then
    advance
    return true
  else return false

def eatWord (w : String) : Parser Bool := do
  if ← atWord w then
    advance
    return true
  else return false

/-! ### Faults -/

/-- Keeps a fault; only the first one is reported. -/
def keep (f : Failure) : Parser Unit := modify fun r => { r with toScan := r.toScan.note f }

/-- Notes a fault and reads on. A current token that cannot be read is taken, and its fault comes first. -/
def note (offset : Nat) (fault : SyntaxFault) : Parser Unit := do
  if let some { token := .invalid f, .. } ← look then
    advance
    keep f
  keep ⟨fault, offset⟩

/-- Fails with a fault. A current token that cannot be read is taken, and its fault is noted. -/
def failAt {α : Type} (offset : Nat) (fault : SyntaxFault) : Parser α := do
  if let some { token := .invalid f, .. } ← look then
    advance
    note f.offset f.fault
  throw ⟨fault, offset⟩

/-- Fails at the current or last token. -/
def fail {α : Type} (fault : SyntaxFault) : Parser α := do failAt (← faultPos) fault

/-- Fails because the current token is none of those wanted. -/
def unexpected {α : Type} (wanted : String) : Parser α := do fail (.unexpected (← shownToken) wanted)

/-- The current lexeme, which must be one that can be read. -/
def require : Parser Lexeme := do
  match ← look with
  | some l =>
    if let .invalid f := l.token then
      advance
      throw f
    return l
  | none => throw ⟨.unexpectedEnd, (← get).prev.stop⟩

/-- Runs a parser and, if it fails, goes on from where it stopped. -/
def attempt {α : Type} (p : Parser α) : Parser (Except Failure α) := fun ctx r =>
  match p ctx r with
  | .ok a r => .ok (.ok a) r
  | .error f r => .ok (.error f) r

/-- Runs a parser only for what it reads and notes. -/
def skipOver {α : Type} (p : Parser α) : Parser Unit := do
  let _ ← attempt p

/-- Takes a token that must come next. -/
def expect (p : Punct) : Parser Unit := do
  if !(← eat p) then fail (.expected p.text (← shownToken))

def expectWord (w : String) : Parser Unit := do
  if !(← eatWord w) then fail (.expected w (← shownToken))

/-! ### Ends of statements -/

/-- Whether a statement may end here: at a semicolon, before a closing brace, at the end of the text and
at the start of a line. -/
def atStatementEnd : Parser Bool := do
  match ← look with
  | some l => return l.newline || (l.token matches .punct .semicolon | .punct (.closing .curly))
  | none => return true

/-- Ends a statement if it may end here; a semicolon is taken. -/
def eatStatementEnd : Parser Bool := do
  match ← look with
  | some l =>
    match l.token with
    | .punct .semicolon =>
      advance
      return true
    | .punct (.closing .curly) => return true
    | _ => return l.newline
  | none => return true

def expectStatementEnd : Parser Unit := do
  if !(← eatStatementEnd) then fail (.expected ";" (← shownToken))

/-! ### Loops -/

/-- Runs a step as long as it yields something, at most `n` times; the results follow those given, which
are reversed. -/
def collectBehind {α : Type} (step : Parser (Option α)) : Nat → List α → Parser (List α)
  | 0, _ => fail .tooLong
  | n + 1, found => do
    match ← step with
    | none => return found.reverse
    | some a => collectBehind step n (a :: found)

/-- Runs a step as long as it yields something, at most `n` times. -/
def collect {α : Type} (n : Nat) (step : Parser (Option α)) : Parser (List α) := collectBehind step n []

/-! ### Contexts -/

/-- Runs a parser where `in` is an operator. -/
def withIn {α : Type} (p : Parser α) : Parser α := withReader ({ · with allowIn := true }) p

def withoutIn {α : Type} (p : Parser α) : Parser α := withReader ({ · with allowIn := false }) p

/-! ### Names -/

/-- Whether a lexeme is a word that may name a variable. -/
def namesVariable (m : Mode) : Option Lexeme → Bool
  | some { token := .word w escaped, .. } => escaped || !isReserved m w
  | _ => false

def atVariable : Parser Bool := return namesVariable (← read).toMode (← look)

/-- A name. `yield` and `await` are names only where a caller says so, other keywords never are. -/
def name (yieldAllowed awaitAllowed : Bool) : Parser Name := do
  match (← require).token with
  | .word w escaped =>
    advance
    let span := (← get).prev
    let ctx ← read
    if !escaped then
      if w == "arguments" && ctx.inField then note span.start .argumentsInField
      else if w == "enum" then note span.start .enumAsName
      else if w == "await" then
        if ctx.inStaticBlock then failAt span.start .nameExpected
        if ctx.isAsync then failAt span.start .awaitAsName
        if !awaitAllowed then failAt span.start .nameExpected
      else if w == "yield" then
        if !yieldAllowed then failAt span.start .nameExpected
      else if isKeyword w then failAt span.start .nameExpected
    return ⟨w, span⟩
  | _ => fail .nameExpected

/-- A name that is declared. It may be `let` only where a caller does not refuse it; in a generator it may
not be `yield`, nor `await` where that is an operator. -/
def declaredName (refuseLet : Bool) : Parser Name := do
  if refuseLet && (← atWord "let") then unexpected "let is reserved in const, let, class declaration"
  let n ← name true true
  let ctx ← read
  if (ctx.isAsync || ctx.inStaticBlock) && n.text == "await" then note n.span.start .nameExpected
  if ctx.isGenerator && n.text == "yield" then note n.span.start .nameExpected
  return n

/-- A name that is declared, if a word that may be one comes next. -/
def declaredName? (refuseLet : Bool) : Parser (Option Name) := do
  if ← atVariable then some <$> declaredName refuseLet else return none

/-- A label. -/
def labelName : Parser Name := do
  let ctx ← read
  name (!ctx.isGenerator) (!ctx.isAsync)

/-- The name behind a point, where keywords are names. -/
def propertyName : Parser Name := do
  let l ← require
  match l.token with
  | .word w _ =>
    advance
    return ⟨w, l.span⟩
  | _ => fail .nameExpected

/-- The name behind a hash sign, which is the current token and stands directly before it. -/
def hashName : Parser Name := do
  let start ← pos
  advance
  let hashEnd := (← get).prev.stop
  if (← pos) != hashEnd then failAt start .spacedHash
  let n ← propertyName
  return ⟨n.text, ⟨start, n.span.stop⟩⟩

end Parser

end ScriptCoverage.Source
