import ScriptCoverage.Source.Parser.Expression

/-!
The grammar of statements. Jumps are checked while they are read: the context knows the labels, the
loops and the switches around a statement. Some statements that are not finished are noted and passed over.
-/

namespace ScriptCoverage.Source

namespace Parser

variable (g : Grammar)

/-! ### Parts of statements -/

/-- A statement inside another one, which cannot be a declaration. -/
def nested : Parser Stmt := g.statement false false

/-- The body of a loop, which jumps may leave or repeat. -/
def loopBody : Parser Stmt :=
  withReader (fun ctx => { ctx with breakable := true, inLoop := true }) (nested g)

/-- An expression in parentheses. -/
def condition : Parser Expr := do
  expect (.opening .round)
  let e ← withIn (expression g)
  expect (.closing .round)
  return e

/-- An expression, unless the statement ends before it. -/
def expressionBeforeEnd : Parser (Option Expr) := do
  if ← atStatementEnd then return none else some <$> withIn (expression g)

/-! ### Declarations -/

def declKind? : Token → Option DeclKind
  | .word "var" false => some .var
  | .word "let" false => some .let_
  | .word "const" false => some .const
  | _ => none

/-- Whether a lexeme behind the word `let` makes that a declaration. -/
def isDeclared : Option Lexeme → Bool
  | some l =>
    match l.token with
    | .word w escaped => mayBeName w escaped
    | .punct (.opening .square) | .punct (.opening .curly) => true
    | _ => false
  | none => false

/-- The kind of the declaration that starts here, if one does. -/
def declarationHere? : Parser (Option DeclKind) := do
  match ← here? declKind? with
  | some .let_ => return if isDeclared (← peek) then some .let_ else none
  | kind => return kind

/-- Whether the head of a loop over keys or elements goes on here. -/
def atForEach : Parser Bool := return (← atWord "of") || (← atWord "in")

/-- Checks a declared pattern without a value. -/
def checkMissingValue (start : Nat) (kind : DeclKind) (p : Pat) : Parser Unit := do
  if kind == .const && (← read).strict then note start .missingConstValue
  else if !arePlain [p] then failAt start .missingPatternValue

/-- A declared pattern with its value. In the head of a loop over keys or elements it may have none. -/
def declarator (inHead : Bool) (kind : DeclKind) : Parser Pat := do
  let start ← pos
  let p ← target g (kind != .var)
  let bare ← if inHead then atForEach else pure false
  if bare then return .init (← spanFrom start) p none
  if ← eat (.assign .assign) then
    let v ← g.assignment
    return .init (← spanFrom start) p (some v)
  checkMissingValue start kind p
  return .init (← spanFrom start) p none

/-- Declared patterns behind those found, which are reversed; `keyword` is where their keyword stands. -/
def declaratorsBehind (inHead : Bool) (kind : DeclKind) (keyword : Span) : Nat → List Pat → Parser (List Pat)
  | 0, _ => fail .tooLong
  | n + 1, found => do
    if (← atPunct .semicolon) || (← atEnd) then
      let prev := (← get).prev
      -- without a declaration the report points behind the keyword, else at the comma
      note (if prev == keyword then prev.stop else prev.start) .trailingComma
      return found.reverse
    let one := declarator g inHead kind
    -- behind `var` in the head of a loop `in` may belong to the loop; elsewhere it is an operator
    let p ← if inHead && kind == .var then one else withIn one
    if ← eat .comma then declaratorsBehind inHead kind keyword n (p :: found) else return (p :: found).reverse

/-- Keyword and patterns of a declaration. -/
def declarators (inHead : Bool) (kind : DeclKind) : Parser (List Pat) := do
  advance
  declaratorsBehind g inHead kind (← get).prev g.bound []

/-- Passes over tokens up to the end of a statement or a token that cannot be read. -/
def skipStatement : Nat → Parser Unit
  | 0 => return ()
  | n + 1 => do
    if ← eatStatementEnd then return ()
    advance
    match ← look with
    | some { token := .invalid _, .. } => return ()
    | _ => skipStatement n

/-- A declaration that is a statement of its own. -/
def declaration (kind : DeclKind) : Parser Stmt := do
  let start ← pos
  let ds ← declarators g false kind
  if !(← eatStatementEnd) then
    note (← faultPos) .semicolonExpected
    skipOver (expression g)
    skipStatement g.bound
  return .declare (← spanFrom start) kind ds

/-- A function or class where only a statement may stand is noted. -/
def checkAllowed (declarations : Bool) : Parser Unit := do
  if !declarations then note (← faultPos) .misplacedDeclaration

def classDeclaration : Parser Stmt := do
  let start ← pos
  let c ← classParts g true
  match c.name with
  | some n => return .classDef (← spanFrom start) n c.base c.members
  | none => fail .nameExpected

/-! ### Loops -/

/-- What the head of a `for` loop holds. -/
inductive ForParts
  | counted (init : Head) (test update : Option Expr)
  | each (isIn : Bool) (head : Head) (right : Expr)

/-- The head of a loop over keys or elements, from the word in it on. -/
def forEachHead (head : Head) : Parser ForParts := do
  let isIn ← atWord "in"
  advance
  return .each isIn head (← withIn (if isIn then expression g else g.assignment))

/-- The head of a loop with a counter, behind its first semicolon. -/
def countedHead (init : Head) : Parser ForParts := do
  let test ← if ← eat .semicolon then pure none
    else
      let e ← withIn (expression g)
      expect .semicolon
      pure (some e)
  let update ← if ← atPunct (.closing .round) then pure none else some <$> withIn (expression g)
  return .counted init test update

/-- Where the name or pattern of a declarator starts. -/
def declaredStart : Pat → Nat
  | .init s .. => s.start
  | _ => 0

def hasValue : Pat → Bool
  | .init _ _ v => v.isSome
  | _ => false

/-- Checks what is declared in the head of a loop over keys or elements. -/
def checkForBindings (isIn : Bool) (ds : List Pat) : Parser Unit := do
  match ds with
  | [d] => if ((← read).strict || !isIn) && hasValue d then note (declaredStart d) .initializedForBinding
  | ds => (ds.drop 1).forM fun d => note (declaredStart d) .severalForBindings

/-- The head of a `for` loop between its parentheses. -/
def forHead : Parser ForParts := do
  let start ← pos
  if let some kind := ← declarationHere? then
    let ds ← declarators g true kind
    let head : Head := .declare (← spanFrom start) kind ds
    if ← atForEach then
      checkForBindings (← atWord "in") ds
      return ← forEachHead g head
    expect .semicolon
    return ← countedHead g head
  if ← eat .semicolon then return ← countedHead g .none
  let e ← withoutIn (expression g)
  if ← atForEach then return ← forEachHead g (.target (← toTarget e))
  expect .semicolon
  countedHead g (.value e)

/-- A `for` loop of any form. -/
def forStatement : Parser Stmt := do
  let start ← pos
  advance
  let awaitStart ← pos
  let isAwait ← eatWord "await"
  expect (.opening .round)
  let inside (ctx : Context) : Context := { ctx with inForHead := true, inForAwaitHead := isAwait }
  let parts ← withReader inside (forHead g)
  expect (.closing .round)
  let body ← loopBody g
  let span ← spanFrom start
  match parts with
  | .each false head right => return .forOf span isAwait head right body
  | parts =>
    if isAwait then failAt awaitStart .awaitWithoutOf
    match parts with
    | .each _ head right => return .forIn span head right body
    | .counted init test update => return .forLoop span init test update body

def whileStatement : Parser Stmt := do
  let start ← pos
  advance
  let test ← condition g
  let body ← loopBody g
  return .whileLoop (← spanFrom start) test body

def doStatement : Parser Stmt := do
  let start ← pos
  advance
  let body ← loopBody g
  expectWord "while"
  let test ← condition g
  let _ ← eatStatementEnd
  return .doWhile (← spanFrom start) body test

/-! ### Jumps -/

/-- Notes a jump that leads nowhere. A label must be in force where it is used. -/
def checkJump (start : Nat) (isBreak : Bool) (label : Option Name) : Parser Unit := do
  let ctx ← read
  let unknown := label.any fun l => !ctx.labels.contains l.text
  if isBreak then
    if unknown then note start .unknownBreakLabel
    else if !ctx.breakable then note start .strayBreak
  else
    if !ctx.inLoop then note start .strayContinue
    else if unknown then note start .unknownContinueLabel

def jump (isBreak : Bool) : Parser Stmt := do
  let start ← pos
  advance
  let label ← if ← eatStatementEnd then pure none
    else
      let l ← labelName
      expectStatementEnd
      pure (some l)
  checkJump start isBreak label
  let span ← spanFrom start
  return if isBreak then .breakTo span label else .continueTo span label

def returnStatement : Parser Stmt := do
  let start ← pos
  advance
  let e ← expressionBeforeEnd g
  expectStatementEnd
  return .returnValue (← spanFrom start) e

def throwStatement : Parser Stmt := do
  let start ← pos
  advance
  if ← newlineBefore then fail .newlineAfterThrow
  let e ← withIn (expression g)
  expectStatementEnd
  return .throwValue (← spanFrom start) e

/-! ### Branches -/

def branch : Parser Stmt := do
  let start ← pos
  advance
  let test ← condition g
  let consequent ← nested g
  let alternate ← if ← eatWord "else" then some <$> nested g else pure none
  return .branch (← spanFrom start) test consequent alternate

/-- Whether the statements of a clause of a switch go on. -/
def moreInCase : Parser Bool := do
  if (← atEnd) || (← atPunct (.closing .curly)) then return false
  return !((← atWord "case") || (← atWord "default"))

/-- A clause of a switch, if one comes next; `hasDefault` tells whether a default has been seen. -/
def switchCase? (hasDefault : Bool) : Parser (Option Case) := do
  let start ← pos
  let test ← if ← eatWord "case" then some <$> withIn (expression g)
    else if ← eatWord "default" then
      if hasDefault then fail .secondDefault
      pure none
    else return none
  expect .colon
  let body ← statementsBehind g false moreInCase g.bound false []
  return some (.mk (← spanFrom start) test body)

def isDefault : Case → Bool
  | .mk _ test _ => test.isNone

/-- The clauses of a switch behind those found, which are reversed. -/
def casesBehind : Nat → (hasDefault : Bool) → List Case → Parser (List Case)
  | 0, _, _ => fail .tooLong
  | n + 1, hasDefault, found => do
    match ← switchCase? g hasDefault with
    | some c => casesBehind n (hasDefault || isDefault c) (c :: found)
    | none => return found.reverse

def switch : Parser Stmt := do
  let start ← pos
  advance
  let discriminant ← condition g
  expect (.opening .curly)
  let cases ← withReader ({ · with breakable := true }) (casesBehind g g.bound false [])
  expect (.closing .curly)
  return .switch (← spanFrom start) discriminant cases

/-- A catch clause, if one comes next. -/
def handler? : Parser (Option Handler) := do
  let start ← pos
  if !(← eatWord "catch") then return none
  let param ← if ← eat (.opening .round) then
      let p ← target g false
      expect (.closing .round)
      pure p
    else pure .hole
  let body ← block g false
  return some (.mk (← spanFrom start) param body)

/-- The block behind the word `finally`, if that comes next. -/
def finalizer? : Parser (Option Block) := do
  if ← eatWord "finally" then some <$> block g false else return none

def tryStatement : Parser Stmt := do
  let start ← pos
  advance
  let body ← block g false
  let after ← pos
  let h ← handler? g
  let f ← finalizer? g
  if h.isNone && f.isNone then note after .semicolonExpected
  return .tryCatch (← spanFrom start) body h f

/-- A clause of a `try` without its block is noted and passed over. -/
def strayClause : Parser Stmt := do
  let start ← pos
  note (← faultPos) .semicolonExpected
  skipOver (handler? g)
  skipOver (finalizer? g)
  return .expression (← spanFrom start) .hole

/-! ### Expressions and labels -/

/-- What a label stands before. A function may stand there, but not any function. -/
def labelled (label : Name) : Parser Stmt := do
  let isSecond := (← read).labels.contains label.text
  -- a `break` without a label may leave what is labelled, too
  let inside (ctx : Context) : Context := { ctx with breakable := true, labels := label.text :: ctx.labels }
  let body ← withReader inside do
    if !(← atWord "function") then return ← nested g
    let start ← pos
    let f ← functionFrom g start false true
    if (← read).strict then note start .labeledStrictFunction
    if f.isGenerator || f.isAsync then note start .labeledGenerator
    return .function f
  if isSecond then note label.span.start (.duplicateLabel label.text)
  return .labeled (← spanFrom label.span.start) label body

/-- An expression statement, or a labelled statement if the expression is a name before a colon. -/
def expressionStatement : Parser Stmt := do
  let start ← pos
  let e ← withIn (expression g)
  if let .name n := e then
    if ← eat .colon then return ← labelled g n
  if ← eatStatementEnd then return .expression (← spanFrom start) e
  if !(← atSign) then fail .statementEndExpected
  note (← faultPos) .semicolonExpected
  let e ← operations g g.bound 0 e
  return .expression (← spanFrom start) e

/-- A statement that starts with the word `await` at the top level. -/
def awaitStatement : Parser Stmt := do
  let start ← pos
  note start .topLevelAwait
  let e ← awaitExpression g true
  let e ← withIn (operations g g.bound 0 e)
  let _ ← eatStatementEnd
  return .expression (← spanFrom start) e

/-- A statement that starts with the word `import` or `export`, of which only expressions are allowed. -/
def moduleStatement : Parser Stmt := do
  let start ← pos
  let isExpression ← if ← atWord "import" then
      let next ← peek
      pure (isPunct (.opening .round) next || isPunct .dot next)
    else pure false
  if !isExpression then fail .moduleSyntax
  let e ← expression g
  let _ ← eatStatementEnd
  return .expression (← spanFrom start) e

/-! ### Any statement -/

/-- Whether an async function starts here. -/
def atAsyncFunction : Parser Bool := do
  if !(← atWord "async") then return false
  match ← peek with
  | some l => return isWord "function" (some l) && !l.newline
  | none => return false

/-- A statement by the word that it starts with, or nothing if it starts with an expression. -/
def keywordStatement? (declarations : Bool) (word : String) : Parser (Option Stmt) := do
  let start ← pos
  match word with
  | "break" => some <$> jump true
  | "continue" => some <$> jump false
  | "debugger" =>
    advance
    expectStatementEnd
    return some (.debugger (← spanFrom start))
  | "do" => some <$> doStatement g
  | "for" => some <$> forStatement g
  | "if" => some <$> branch g
  | "return" => some <$> returnStatement g
  | "switch" => some <$> switch g
  | "throw" => some <$> throwStatement g
  | "try" => some <$> tryStatement g
  | "catch" | "finally" => some <$> strayClause g
  | "while" => some <$> whileStatement g
  | "with" =>
    advance
    let object ← condition g
    -- for `await` the body counts as one of a function
    let body ← withReader ({ · with inFunction := true }) (nested g)
    return some (.withObject (← spanFrom start) object body)
  | "var" => some <$> declaration g .var
  | "const" => if declarations then some <$> declaration g .const else return none
  | "let" =>
    if !declarations then return none
    if isDeclared (← peek) then some <$> declaration g .let_ else return none
  | "function" =>
    checkAllowed declarations
    return some (.function (← functionFrom g start false true))
  | "class" =>
    checkAllowed declarations
    some <$> classDeclaration g
  | "async" =>
    if !(← atAsyncFunction) then return none
    advance
    return some (.function (← functionFrom g start true true))
  | _ => return none

/-- Any statement; it is told whether it may be a declaration and whether it stands at the top level. -/
def statement (declarations top : Bool) : Parser Stmt := do
  if (← atWord "import") || (← atWord "export") then return ← moduleStatement g
  let l ← require
  if declarations && top && (← atWord "await") then return ← awaitStatement g
  match l.token with
  | .punct (.opening .curly) => return .block (← block g false)
  | .punct .semicolon =>
    advance
    return .empty l.span
  | .word w false =>
    match ← keywordStatement? g declarations w with
    | some s => return s
    | none => expressionStatement g
  | _ => expressionStatement g

end Parser

/-- The grammar for texts with at most `n` nested uses of its productions. -/
def Grammar.ofBound : Nat → Grammar
  | 0 =>
    let stop {α : Type} : Parser α := Parser.fail .tooLong
    ⟨0, fun _ _ => stop, stop, stop, stop, fun _ => stop⟩
  | n + 1 =>
    let g := Grammar.ofBound n
    { bound := n + 1
      statement := Parser.statement g
      assignment := Parser.assignment g
      unary := Parser.unary g
      leftHandSide := Parser.leftHandSide g
      target := Parser.target g }

end ScriptCoverage.Source
