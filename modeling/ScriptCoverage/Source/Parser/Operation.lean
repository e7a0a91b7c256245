import ScriptCoverage.Source.Parser.Class

/-!
Operations with two operands, read by precedence climbing.
-/

namespace ScriptCoverage.Source

namespace Parser

variable (g : Grammar)

/-- How strongly an operator binds; `||` and `??` bind alike. -/
def precedence : InfixOp → Nat
  | .logical .or | .logical .nullish => 1
  | .logical .and => 2
  | .binary .bitOr => 3
  | .binary .bitXor => 4
  | .binary .bitAnd => 5
  | .binary .eq | .binary .ne | .binary .eqStrict | .binary .neStrict => 6
  | .binary .lt | .binary .le | .binary .gt | .binary .ge | .binary .in_ | .binary .instanceOf => 7
  | .binary .shl | .binary .shr | .binary .ushr => 8
  | .binary .add | .binary .sub => 9
  | .binary .mul | .binary .div | .binary .mod => 10
  | .binary .exp => 11

/-- Power associates to the right, all other operators to the left. -/
def rightBound (op : InfixOp) : Nat := if op == .binary .exp then precedence op - 1 else precedence op

def infixOp? (allowIn : Bool) : Token → Option InfixOp
  | .punct (.operator op) => some op
  | .word "in" false => if allowIn then some (.binary .in_) else none
  | .word "instanceof" false => some (.binary .instanceOf)
  | _ => none

/-- The operator that comes next, if one does. -/
def infixHere? : Parser (Option InfixOp) := do
  match ← look with
  | some l => return infixOp? (← read).allowIn l.token
  | none => return none

/-- Whether the current token is an operator that is no word. -/
def atSign : Parser Bool := do
  match ← look with
  | some l => return (l.token matches .punct (.operator _))
  | none => return false

/-- Whether an operand is an unparenthesised operation with `&&` or `||`. -/
def isAndOr : Expr → Bool
  | .operation _ (.logical .and) .. | .operation _ (.logical .or) .. => true
  | _ => false

def isNullish : Expr → Bool
  | .operation _ (.logical .nullish) .. => true
  | _ => false

/-- Notes that `??` is mixed with another logical operator without parentheses. -/
def checkNullish (op : InfixOp) (left right : Expr) : Parser Unit := do
  match op with
  | .logical .nullish =>
    if isAndOr left then note left.span.start .mixedNullish
    if isAndOr right then note right.span.start .mixedNullish
  | .logical _ => if isNullish left then note left.span.start .mixedNullish
  | .binary _ => pure ()

def isUnary : Expr → Bool
  | .unary .. | .await .. => true
  | _ => false

/-- The operations behind a left operand whose operators bind more strongly than `least`. -/
def operations : Nat → (least : Nat) → Expr → Parser Expr
  | 0, _, _ => fail .tooLong
  | n + 1, least, left => do
    match ← infixHere? with
    | none => return left
    | some op =>
      if precedence op ≤ least then return left
      advance
      if op == .binary .exp && isUnary left then fail .unaryBeforePower
      let right ← operations n (rightBound op) (← g.unary)
      checkNullish op left right
      operations n least (.operation (← spanFrom left.span.start) op left right)

end Parser

end ScriptCoverage.Source
