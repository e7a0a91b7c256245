import ScriptCoverage.Source.Parser.Binding

/-!
Statement lists, blocks and functions. The first statement of a script or a function may make the rest of
it strict; what has been looked at by then has been read as it was.
-/

namespace ScriptCoverage.Source

namespace Parser

variable (g : Grammar)

/-! ### Statement lists -/

/-- Whether a statement is a directive that makes the rest of its body strict. -/
def isStrictDirective : Stmt → Bool
  | .expression _ (.string _ _ (some raw)) => raw == "'use strict'" || raw == "\"use strict\""
  | _ => false

/-- Whether a statement may stand before a directive. -/
def isDirective : Stmt → Bool
  | .expression _ (.string ..) => true
  | _ => false

/-- Statements as long as there are more, behind those found, which are reversed. With `directives` the
first one may be a directive. -/
def statementsBehind (top : Bool) (more : Parser Bool) : Nat → (directives : Bool) → List Stmt → Parser (List Stmt)
  | 0, _, _ => fail .tooLong
  | n + 1, directives, found => do
    if !(← more) then return found.reverse
    let s ← g.statement true top
    let rest := statementsBehind top more n false (s :: found)
    if directives && isStrictDirective s then withReader ({ · with strict := true }) rest else rest

/-- Whether another statement of a block comes next. A text that is over lacks the closing brace. -/
def moreInBlock : Parser Bool := do
  match ← look with
  | some l => return !isPunct (.closing .curly) (some l)
  | none =>
    let got ← shownToken
    note (← faultPos) (.expected "\x7d" got)
    return false

/-- A block, which may start with a directive if it is the body of a function. -/
def block (directives : Bool) : Parser Block := do
  let start ← pos
  expect (.opening .curly)
  let body ← statementsBehind g false moreInBlock g.bound directives []
  if !(← atEnd) then advance
  return .mk (← spanFrom start) body

/-! ### Functions -/

/-- The context of a function body: no loop and no label around it is in reach. -/
def bodyContext (isAsync isGenerator : Bool) (ctx : Context) : Context :=
  { ctx with
    isAsync := isAsync
    isGenerator := isGenerator
    inStaticBlock := false
    inFunction := true
    breakable := false
    inLoop := false
    labels := [] }

/-- Whether all parameters are plain names. -/
def arePlain (ps : List Pat) : Bool :=
  ps.all fun p =>
    match p with
    | .name _ => true
    | _ => false

/-- Notes a directive in the body of a function whose parameters are not all plain names. -/
def checkDirective (ps : List Pat) (body : Block) : Parser Unit := do
  if !arePlain ps then
    if let some s := (body.body.takeWhile isDirective).find? isStrictDirective then
      note s.span.start .strictDirective

/-- Parameters and body of a function. Its range starts at `start`, and `check` looks at its parameters. -/
def functionRest (start : Nat) (name : Option Name) (isAsync isGenerator : Bool)
    (check : List Pat → Parser Unit) : Parser Func :=
  withReader (fun ctx => { ctx with isAsync := isAsync, isGenerator := isGenerator }) do
    expect (.opening .round)
    let params ← withReader ({ · with inParameters := true, inFunction := false }) do
      let ps ← parameters g
      check ps
      return ps
    expect (.closing .round)
    let inside (ctx : Context) : Context :=
      { bodyContext isAsync isGenerator ctx with ownThis := true, allowIn := true }
    let body ← withReader inside do
      let body ← block g true
      checkDirective params body
      return body
    return .mk (← spanFrom start) .plain name isAsync isGenerator params body

/-- A function from its keyword on; `async` has been taken if it is there. The name of a declared function
belongs to the text around it. -/
def functionFrom (start : Nat) (isAsync declared : Bool) : Parser Func :=
  withReader (fun ctx => { ctx with hasSuper := false, inField := false }) do
    advance
    let isGenerator ← eat (.operator (.binary .mul))
    let name ← if declared then some <$> declaredName false
      else withReader (fun ctx => { ctx with isAsync := isAsync, isGenerator := isGenerator }) (declaredName? false)
    functionRest g start name isAsync isGenerator fun _ => return ()

/-- The body of an arrow function behind its arrow. -/
def arrowFrom (start : Nat) (isAsync : Bool) (params : List Pat) : Parser Expr :=
  withReader (bodyContext isAsync false) do
    if ← atPunct (.opening .curly) then
      let body ← block g false
      checkDirective params body
      return .function (.mk (← spanFrom start) .arrow none isAsync false params body)
    else
      let value ← g.assignment
      return .lambda (← spanFrom start) isAsync params value

/-! ### Methods -/

/-- Checks the number of parameters of an accessor, whose faults are reported at an offset. -/
def checkAccessor (kind : MethodKind) (offset : Nat) (ps : List Pat) : Parser Unit := do
  match kind with
  | .method => return ()
  | .getter => if !ps.isEmpty then note offset .getterParameters
  | .setter =>
    if ps.length != 1 then note offset .setterParameters
    if let .rest s _ :: _ := ps then note s.start .restInSetter

/-- What a method starts with: its range starts at `start`. -/
structure MethodHead where
  start : Nat
  isStatic : Bool := false
  kind : MethodKind := .method
  isAsync : Bool := false
  isGenerator : Bool := false

/-- A method behind its key, with faults of its parameters reported at `offset`. -/
def methodRest (h : MethodHead) (k : Key) (offset : Nat) : Parser Entry :=
  withReader ({ · with hasSuper := true, inField := false }) do
    let f ← functionRest g h.start none h.isAsync h.isGenerator (checkAccessor h.kind offset)
    return .method (← spanFrom h.start) h.isStatic h.kind k f

/-! ### Objects -/

/-- A method of an object with a word in front of its key. -/
def accessorEntry (start : Nat) (word : String) : Parser Entry := do
  let h ← match word with
    | "get" => pure { start, kind := .getter : MethodHead }
    | "set" => pure { start, kind := .setter : MethodHead }
    | "async" => pure { start, isAsync := true, isGenerator := ← eat (.operator (.binary .mul)) : MethodHead }
    | _ => unexpected "... , *,  (, [, :, , ?, = or an identifier"
  let k ← key g
  methodRest g h k k.span.start

/-- An entry of an object literal. -/
def entry : Parser Entry := do
  let start ← pos
  if ← eat .ellipsis then
    let dots := (← get).prev
    return .spread dots (← withIn g.assignment)
  if ← eat (.operator (.binary .mul)) then
    let k ← key g
    return ← methodRest g { start, isGenerator := true } k k.span.start
  let k ← key g
  if ← eat .colon then return .pair k (← withIn g.assignment)
  if ← atPunct (.opening .round) then return ← methodRest g { start } k k.span.start
  match k with
  | .name n =>
    if ← eat .question then note (← get).prev.start .optionalMember
    if (← atPunct (.assign .assign)) || (← atPunct .comma) || (← atPunct (.closing .curly)) then
      checkShorthand n
      if ← eat (.assign .assign) then
        let v ← withIn g.assignment
        return .assigned (← spanFrom start) n v
      return .shorthand n
    accessorEntry g start n.text
  | _ => unexpected "identifier"

/-- Remembers the comma behind the last item of a literal, if that is a spread. -/
def rememberComma (start : Nat) (afterSpread : Bool) (comma : Option Nat) : Parser Unit := do
  if let (true, some offset) := (afterSpread, comma) then
    modify fun r => { r with commas := (start, offset) :: r.commas }

def isSpreadEntry : Entry → Bool
  | .spread .. => true
  | _ => false

/-- An object literal, whose brace is the current token. -/
def object : Parser Expr := do
  let start ← pos
  advance
  let (es, comma) ← braceItems g (entry g)
  rememberComma start (es.getLast?.any isSpreadEntry) comma
  return .object (← spanFrom start) es

end Parser

end ScriptCoverage.Source
