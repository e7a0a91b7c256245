import ScriptCoverage.Machine.Expression

/-!
Statements. `Evaluator.evalStmt` runs one, given an evaluator for its parts. Loops run in rounds, so that each
loop is described by one round of it; `try` turns the end of its block into a value and goes on from there.
-/

namespace ScriptCoverage.Machine

open Program (Expr Stmt Block Case Handler Declarator Init Receiver)
open Source (DeclKind)

variable {σ : Type}

/-- Opens a frame inside a scope. -/
def Run.openFrame (kind : FrameKind) (bindings : Table Value) (scope : Scope) : Run σ Scope :=
  modifyGet fun m => m.openFrame kind bindings scope

namespace Evaluator

variable (ev : Evaluator σ)

/-! ### Declarations -/

/-- Makes the declarations of a statement, one after the other. -/
def declarators (scope : Scope) (kind : DeclKind) : List Declarator → Run σ Unit
  | [] => return
  | .mk _ name value :: ds => do
    match kind, value with
    | .var, some e => Run.setName ev.call scope name (← ev.expr scope e)
    | .var, none => modify (·.declareVariable scope name)
    | .let_, e | .const, e => Run.declare scope name (← ev.valueOf scope e)
    declarators scope kind ds

/-! ### Loops -/

def whileLoop (scope : Scope) (labels : List String) (test : Expr) (body : Stmt) : Run σ Completion :=
  ev.loop do
    if ← ev.holds scope test then return (← ev.stmt scope [] body).endsLoop? labels else return some .normal

def doWhile (scope : Scope) (labels : List String) (body : Stmt) (test : Expr) : Run σ Completion :=
  ev.loop do
    match (← ev.stmt scope [] body).endsLoop? labels with
    | some c => return some c
    | none => if ← ev.holds scope test then return none else return some .normal

/-- The scope of a `for` loop, which has a frame of its own for names declared with `let` and `const`. -/
def headScope (scope : Scope) : Init → Run σ Scope
  | .declare .let_ _ | .declare .const _ => Run.openFrame .block {} scope
  | .declare .var _ | .none | .value _ => return scope

def runInit (scope : Scope) : Init → Run σ Unit
  | .none => return
  | .declare kind ds => ev.declarators scope kind ds
  | .value e => do let _ ← ev.expr scope e

/-- Whether a loop goes on; one without a test does. -/
def goesOn (scope : Scope) : Option Expr → Run σ Bool
  | none => return true
  | some e => ev.holds scope e

def forLoop (scope : Scope) (labels : List String) (init : Init) (test update : Option Expr) (body : Stmt) :
    Run σ Completion := do
  -- one frame for all rounds: closures that are made in them share its names
  let scope ← headScope scope init
  ev.runInit scope init
  ev.loop do
    if ← ev.goesOn scope test then
      match (← ev.stmt scope [] body).endsLoop? labels with
      | some c => return some c
      | none =>
        let _ ← ev.valueOf scope update
        return none
    else return some .normal

/-- Hands a key to a `for`-`in` loop, and gives the scope for this round. -/
def receive (scope : Scope) (key : String) : Receiver → Run σ Scope
  | .declare .var name => do
    Run.setName ev.call scope name (.string key)
    return scope
  | .declare .let_ name | .declare .const name => Run.openFrame .block (({} : Table Value).put name (.string key)) scope
  | .place p => do
    ev.write scope (.string key) (← ev.reference scope p)
    return scope

/-- The rounds of a `for`-`in` loop, one for each key. -/
def forKeys (scope : Scope) (labels : List String) (receiver : Receiver) (body : Stmt) :
    List String → Run σ Completion
  | [] => return .normal
  | key :: keys => do
    let inner ← ev.receive scope key receiver
    match (← ev.stmt inner [] body).endsLoop? labels with
    | some c => return c
    | none => forKeys scope labels receiver body keys

def forIn (scope : Scope) (labels : List String) (receiver : Receiver) (right : Expr) (body : Stmt) :
    Run σ Completion := do
  let v ← ev.expr scope right
  ev.forKeys scope labels receiver body (← Run.see (·.loopKeys v))

/-! ### Branches -/

/-- The clauses from the first one on whose test gives a value. -/
def matchingCases (scope : Scope) (v : Value) : List Case → Run σ (Option (List Case))
  | [] => return none
  -- the default is passed over, wherever it stands
  | .mk _ none _ :: cs => matchingCases scope v cs
  | c@(.mk _ (some test) _) :: cs => do
    if (← ev.expr scope test).strictEquals v then return some (c :: cs) else matchingCases scope v cs

/-- The clauses from the default on. -/
def defaultCases : List Case → List Case
  | [] => []
  | c@(.mk _ none _) :: cs => c :: cs
  | .mk _ (some _) _ :: cs => defaultCases cs

/-- Runs clauses one after the other until one does not end normally. -/
def runCases (scope : Scope) : List Case → Run σ Completion
  | [] => return .normal
  | .mk _ _ b :: cs => do
    match ← ev.body scope b with
    | .normal => runCases scope cs
    | .broke none => return .normal
    | c => return c

def switch (scope : Scope) (discriminant : Expr) (cases : List Case) : Run σ Completion := do
  let v ← ev.expr scope discriminant
  ev.runCases scope ((← ev.matchingCases scope v cases).getD (defaultCases cases))

/-! ### Errors -/

/-- Runs a handler on an error. -/
def handle (scope : Scope) (e : RuntimeError) : Handler → Run σ Completion
  | .mk _ param b => do
    let v ← Run.caughtValue e
    let bindings := match param with
      | some name => ({} : Table Value).put name v
      | none => {}
    ev.body (← Run.openFrame .block bindings scope) b.body

/-- Runs a block with a handler for the errors that can be caught. -/
def guarded (scope : Scope) (b : Block) (handler : Option Handler) : Run σ Completion := do
  match ← Run.attempt (ev.body scope b.body), handler with
  | .error e, some h => if e.isCatchable then ev.handle scope e h else Run.fail e
  | result, _ => Run.resume result

/-- Runs a block with a handler, and a last block behind both of them however they end. If the last block
does not end normally, that is how the whole ends. -/
def tryCatch (scope : Scope) (b : Block) (handler : Option Handler) : Option Block → Run σ Completion
  | none => ev.guarded scope b handler
  | some f => do
    let result ← Run.attempt (ev.guarded scope b handler)
    match ← ev.body scope f.body with
    | .normal => Run.resume result
    | c => return c

/-! ### All statements -/

/-- Runs a statement under one more label. -/
def labeled (scope : Scope) (labels : List String) (label : String) (body : Stmt) : Run σ Completion := do
  match ← ev.stmt scope (label :: labels) body with
  | .broke (some target) => return if target = label then .normal else .broke (some target)
  | c => return c

/-- Runs a statement with the names in it looked up in an object first. -/
def withObject (scope : Scope) (e : Expr) (body : Stmt) : Run σ Completion := do
  let v ← ev.expr scope e
  if v.isNullish then Run.refuse .nullishToObject
  else ev.stmt (← Run.openFrame (.object v) {} scope) [] body

/-- Runs a statement that carries labels. -/
def evalStmt (scope : Scope) (labels : List String) : Stmt → Run σ Completion
  | .expression _ e => do
    let _ ← ev.expr scope e
    return .normal
  | .declare _ kind ds => do
    ev.declarators scope kind ds
    return .normal
  -- functions were bound when the body around them was entered
  | .function _ | .debugger _ | .empty _ => return .normal
  | .returnValue _ e => return .returned (← ev.valueOf scope e)
  | .branch _ test consequent alternate => do
    if ← ev.holds scope test then ev.stmt scope [] consequent
    else match alternate with
      | some s => ev.stmt scope [] s
      | none => return .normal
  | .block b => ev.body scope b.body
  | .whileLoop _ test body => ev.whileLoop scope labels test body
  | .doWhile _ body test => ev.doWhile scope labels body test
  | .forLoop _ init test update body => ev.forLoop scope labels init test update body
  | .forIn _ receiver right body => ev.forIn scope labels receiver right body
  | .labeled _ label body => ev.labeled scope labels label body
  | .switch _ discriminant cases => ev.switch scope discriminant cases
  | .breakTo _ label => return .broke label
  | .continueTo _ label => return .continued label
  | .throwValue _ e => do Run.fail (.thrown (← ev.expr scope e))
  | .tryCatch _ b handler finalizer => ev.tryCatch scope b handler finalizer
  | .withObject _ e body => ev.withObject scope e body

end Evaluator

end ScriptCoverage.Machine
