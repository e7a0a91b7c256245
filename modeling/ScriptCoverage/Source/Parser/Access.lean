import ScriptCoverage.Source.Parser.Primary

/-!
Accesses, calls and constructions. The words `super` and `import` are no values of their own: they need an
access or a call behind them. What is constructed is read without calls, so that the first parenthesis
belongs to the construction.
-/

namespace ScriptCoverage.Source

namespace Parser

variable (g : Grammar)

/-- What accesses and calls follow. -/
inductive Base
  | value (e : Expr)
  | superRef (span : Span)
  | importRef (span : Span) (phase : ImportPhase)

def Base.start : Base → Nat
  | .value e => e.span.start
  | .superRef s | .importRef s _ => s.start

def Base.isImport : Base → Bool
  | .importRef .. => true
  | _ => false

/-! ### Arguments -/

/-- The arguments behind those found, which are reversed; an import, which has its parenthesis at `start`,
allows no comma behind the last one. -/
def argumentsBehind (start : Nat) (isImport : Bool) : Nat → List Expr → Parser (List Expr)
  | 0, _ => fail .tooLong
  | n + 1, found => do
    if (← atEnd) || (← atPunct (.closing .round)) then return found.reverse
    if !found.isEmpty then
      expect .comma
      if ← atPunct (.closing .round) then
        if isImport then failAt start .commaInImport
        return found.reverse
    let e ← argument g
    argumentsBehind start isImport n (e :: found)

/-- The arguments of a call in their parentheses. -/
def arguments (isImport : Bool) : Parser (List Expr) := do
  let start ← pos
  expect (.opening .round)
  let es ← argumentsBehind g start isImport g.bound []
  expect (.closing .round)
  return es

/-! ### One link -/

/-- The access to the member `k` of what comes before. -/
def access (b : Base) (calls optional : Bool) (k : Key) : Parser Expr := do
  match b with
  | .value e => return .member (← spanFrom b.start) optional e k
  | .superRef _ =>
    if !(← read).hasSuper then fail .straySuper
    if optional then fail (if calls then .straySuper else .straySuperCall)
    return .superMember (← spanFrom b.start) k
  | .importRef .. => unexpected "meta"

/-- The call of what comes before, with its arguments still to come. -/
def callOf (b : Base) (optional : Bool) : Parser Expr := do
  let es ← arguments g b.isImport
  match b, optional with
  | .value e, _ => return .call (← spanFrom b.start) optional e es
  | _, true => fail .optionalSuperCall
  | .superRef _, false => return .superCall (← spanFrom b.start) es
  | .importRef _ phase, false => return .importCall (← spanFrom b.start) phase es

/-- Takes the question mark of an optional link, which a point follows. -/
def eatOptional : Parser Bool := do
  if !(← atPunct .question) then return false
  if !isPunct .dot (← peek) then return false
  advance
  return true

/-- Takes the point of an optional link if a given bracket follows it. -/
def eatPointBefore (p : Punct) : Parser Bool := do
  if !(← atPunct .dot) then return false
  if !isPunct p (← peek) then return false
  advance
  return true

/-- The name of a member behind its point. -/
def memberName : Parser Key := do
  if ← atPunct .hash then return .hash (← hashName) else return .name (← propertyName)

/-- A template behind its tag. -/
def taggedTemplate (tag : Expr) : Parser Expr := do
  let (quasis, es) ← template g true
  if tag.hasOptionalLink then note tag.span.start .optionalTag
  return .tagged (← spanFrom tag.span.start) tag quasis es

/-- One access or call, or nothing if none follows. -/
def link? (calls : Bool) (b : Base) : Parser (Option Expr) := do
  let optional ← eatOptional
  let inBrackets ← if optional then eatPointBefore (.opening .square) else atPunct (.opening .square)
  if inBrackets then
    let start ← pos
    advance
    let e ← withIn (expression g)
    expect (.closing .square)
    let k : Key := .computed (← spanFrom start) e
    return some (← access b calls optional k)
  let called ← if optional then eatPointBefore (.opening .round)
    else if calls then atPunct (.opening .round) else pure false
  if called then return some (← callOf g b optional)
  if ← eat .dot then
    let k ← memberName
    return some (← access b calls optional k)
  match b with
  | .value e => if ← atPunct .backquote then return some (← taggedTemplate g e) else return none
  | .superRef _ => fail (if calls then .straySuper else .straySuperCall)
  | .importRef .. => fail .strayImport

/-! ### Chains -/

/-- All accesses and calls behind an expression. -/
def linksBehind (calls : Bool) : Nat → Expr → Parser Expr
  | 0, _ => fail .tooLong
  | n + 1, e => do
    match ← link? g calls (.value e) with
    | some e => linksBehind calls n e
    | none => return e

/-- The accesses and calls behind a base; words that are no values need one. -/
def links (calls : Bool) (b : Base) : Parser Expr := do
  match ← link? g calls b, b with
  | some e, _ | none, .value e => linksBehind g calls g.bound e
  | none, _ => fail .expressionExpected

/-- What starts with the word `super`, which is the current token. -/
def superAccess (calls : Bool) : Parser Expr := do
  advance
  links g calls (.superRef (← get).prev)

/-- What starts with the word `import`, which is the current token. -/
def importAccess (calls : Bool) : Parser Expr := do
  let start ← pos
  advance
  if !(← eat .dot) then return ← links g calls (.importRef (← spanFrom start) .evaluation)
  match (← propertyName).text with
  | "meta" =>
    note start .importMeta
    links g calls (.value (.importMeta (← spanFrom start)))
  | "source" => links g calls (.importRef (← spanFrom start) .source)
  | "defer" => links g calls (.importRef (← spanFrom start) .defer)
  | _ => unexpected "meta"

/-- The target of a construction, from the point behind its word on. -/
def newTarget (start : Nat) : Parser Expr := do
  if !(← eatWord "target") then unexpected "target"
  let ctx ← read
  if !(ctx.ownThis || ctx.inParameters || ctx.inField) then note start .strayNewTarget
  links g false (.value (.newTarget (← spanFrom start)))

/-- An expression with accesses but no calls, or a construction. The first argument bounds the number of
constructions inside each other. -/
def memberOrNew : Nat → Parser Expr
  | 0 => fail .tooLong
  | n + 1 => do
    if ← atWord "new" then
      let start ← pos
      advance
      if ← eat .dot then return ← newTarget g start
      let callee ← memberOrNew n
      if callee.isArrow then return callee
      if callee.hasOptionalLink then failAt callee.span.start .optionalConstruction
      if !(← atPunct (.opening .round)) then return .construct (← spanFrom start) callee false []
      let es ← arguments g false
      links g false (.value (.construct (← spanFrom start) callee true es))
    else if ← atWord "super" then superAccess g false
    else if ← atWord "import" then importAccess g false
    else
      let e ← primary g
      if e.isArrow then return e
      links g false (.value e)

/-- What stands left of an operator, with all accesses and calls. -/
def leftHandSide : Parser Expr := do
  if ← atWord "super" then superAccess g true
  else if ← atWord "import" then importAccess g true
  else
    let e ← memberOrNew g g.bound
    if e.isArrow then return e
    linksBehind g true g.bound e

end Parser

end ScriptCoverage.Source
