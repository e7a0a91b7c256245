import ScriptCoverage.Source.Parser.Access

/-!
Operands with prefix and postfix operators, conditional expressions and assignments. An operand that cannot
be read is noted and left out where an operator stands before or behind it.
-/

namespace ScriptCoverage.Source

namespace Parser

variable (g : Grammar)

/-! ### Operands -/

def unaryOp? : Token → Option UnaryOp
  | .punct .bang => some .not
  | .punct .tilde => some .bitNot
  | .punct (.operator (.binary .add)) => some .plus
  | .punct (.operator (.binary .sub)) => some .neg
  | .word "typeof" false => some .typeOf
  | .word "void" false => some .void
  | .word "delete" false => some .delete
  | _ => none

def updateOp? : Token → Option UpdateOp
  | .punct .increment => some .increment
  | .punct .decrement => some .decrement
  | _ => none

/-- What a test of tokens says of the current one, if there is one. -/
def here? {α : Type} (test : Token → Option α) : Parser (Option α) := return (← look).bind (test ·.token)

/-- What stands in for an operand that cannot be read, whose fault is noted unless nothing can be read
behind it. -/
def missingOperand (f : Failure) : Parser Expr := do
  if f.fault == .unterminatedRegex then throw f
  note f.offset f.fault
  return .hole

/-- Whether `await` is a name here, since nothing follows that it could wait for. -/
def awaitIsName : Parser Bool := do
  if (← read).isAsync then return false
  if (← atPunct (.closing .round)) || (← atPunct (.closing .square)) || (← atPunct .comma) then return true
  atStatementEnd

/-- An expression that starts with the word `await`, which is the current token. At the top level that has
been noted already if `topLevel` says so. -/
def awaitExpression (topLevel : Bool) : Parser Expr := do
  let start ← pos
  advance
  let word := (← get).prev
  if ← atPunct (.operator (.binary .mul)) then fail .awaitStar
  if ← awaitIsName then return .name ⟨"await", word⟩
  let ctx ← read
  if !topLevel && !ctx.inFunction && !ctx.isAsync then note (← faultPos) .topLevelAwait
  if ctx.inFunction && !ctx.isAsync then note (← faultPos) .awaitInFunction
  if ctx.inParameters && !ctx.inFunction then note start .awaitInParameter
  let e ← g.unary
  return .await (← spanFrom start) e

/-- An operand: prefix operators, or something with an optional postfix operator on its line. -/
def unary : Parser Expr := do
  let start ← pos
  if let some op := ← here? updateOp? then
    advance
    let e ← g.unary
    checkPlace e
    return .update (← spanFrom start) op true e
  if let some op := ← here? unaryOp? then
    advance
    match ← attempt g.unary with
    | .ok e => return .unary (← spanFrom start) op e
    | .error f => return .unary (← spanFrom start) op (← missingOperand f)
  if ← atWord "await" then return ← awaitExpression g false
  let e ← leftHandSide g
  if e.isArrow || (← newlineBefore) then return e
  match ← here? updateOp? with
  | some op =>
    checkPlace e
    advance
    return .update (← spanFrom start) op false e
  | none => return e

/-- The first operand of operations. If it cannot be read but an operator follows, it is left out. -/
def firstOperand : Parser Expr := do
  match ← attempt g.unary with
  | .ok e => return e
  | .error f =>
    if f.fault == .unterminatedRegex then throw f
    let _ ← require
    if (← infixHere?).isNone then throw f
    note (← faultPos) .expressionExpected
    return .hole

/-! ### Conditionals -/

def conditional : Parser Expr := do
  let start ← pos
  let first ← firstOperand g
  if first.isArrow then return first
  let test ← operations g g.bound 0 first
  if !(← eat .question) then return test
  let consequent ← withIn g.assignment
  expect .colon
  let alternate ← g.assignment
  return .conditional (← spanFrom start) test consequent alternate

/-! ### Assignments -/

def assignOp? : Token → Option AssignOp
  | .punct (.assign op) => some op
  | _ => none

/-- Whether an expression ends before an assignment operator: operations are never assigned to. -/
def isOperation : Expr → Bool
  | .conditional .. | .operation .. | .unary .. | .update .. => true
  | _ => false

/-- Keywords that an expression can start with. -/
def isStartingKeyword (w : String) : Bool :=
  ["new", "this", "super", "class", "function", "throw", "typeof", "void", "delete", "import", "null", "true",
    "false"].contains w

/-- Whether a word may name something where nothing around it forbids that. -/
def mayBeName (w : String) (escaped : Bool) : Bool := escaped || w == "enum" || !isKeyword w

/-- Whether a token can start an expression; a slash is not among them. -/
def startsExpression : Token → Bool
  | .word "let" false => false
  | .word w escaped => mayBeName w escaped || isStartingKeyword w
  | .number .. | .bigint .. | .string .. => true
  | .punct p =>
    match p with
    | .opening _ | .bang | .tilde | .increment | .decrement | .backquote | .hash => true
    | .operator op => op == .binary .add || op == .binary .sub
    | _ => false
  | _ => false

/-- Whether nothing follows the word `yield` that it could hand out. -/
def yieldsNothing : Parser Bool := do
  if ← atStatementEnd then return true
  match ← look with
  | some l =>
    match l.token with
    | .punct (.operator (.binary .mul)) | .punct (.operator (.binary .div)) => return false
    | t => return !startsExpression t
  | none => return true

/-- An expression that starts with the word `yield`, which is the current token. -/
def yieldExpression : Parser Expr := do
  let start ← pos
  advance
  let ctx ← read
  if ctx.inParameters && !ctx.inFunction then failAt (← get).prev.start .yieldInParameter
  if ← yieldsNothing then return .yield (← spanFrom start) false none
  let delegate ← eat (.operator (.binary .mul))
  let e ← g.assignment
  return .yield (← spanFrom start) delegate (some e)

/-- Whether an arrow function can start with a token. -/
def startsArrow : Token → Bool
  | .punct (.opening .round) => true
  | .word "let" false | .word "await" false => false
  | .word w escaped => mayBeName w escaped
  | _ => false

/-- An assignment, an arrow function, or anything that binds more strongly. -/
def assignment : Parser Expr := do
  if (← read).isGenerator && (← atWord "yield") then return ← yieldExpression g
  let l ← require
  let arrowAt := if startsArrow l.token then some l.span.start else none
  modify ({ · with arrowAt })
  let left ← conditional g
  if left.isArrow || isOperation left then return left
  match ← here? assignOp? with
  | none => return left
  | some op =>
    let target ← toAssigned op left
    advance
    let value ← g.assignment
    return .assign (← spanFrom left.span.start) op target value

end Parser

end ScriptCoverage.Source
