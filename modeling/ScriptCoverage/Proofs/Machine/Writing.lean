import ScriptCoverage.Machine.Evaluate

/-!
The constructs that change names: assignments, steps up and down, declarations, and the loops that have a place for
names in their heads. A `Writer` says how code changes names; with the plain one these constructs are what they are in
all evaluators (`Evaluator.exprBy_plain`, `Evaluator.stmtBy_plain`).
-/

namespace ScriptCoverage.Machine

open Program (Expr Stmt Place Declarator Init Receiver)
open Source (DeclKind UpdateOp AssignOp)

variable {σ : Type}

/-- The ways in which code changes names in a scope: to give a name a value, to declare a variable, and to bind a name
in the innermost frame. -/
structure Writer (σ : Type) where
  assign : Scope → String → Value → Run σ Unit
  declareVariable : Scope → String → Run σ Unit
  declare : Scope → String → Value → Run σ Unit

/-- The ways in which all code does so. -/
def Writer.plain (call : Caller σ) : Writer σ where
  assign := Run.setName call
  declareVariable scope name := modify (·.declareVariable scope name)
  declare := Run.declare

namespace Evaluator

variable (ev : Evaluator σ) (w : Writer σ)

/-! ### Expressions -/

def writeBy (scope : Scope) (new : Value) : Reference → Run σ Unit
  | .name name => w.assign scope name new
  | .property v key => Run.setProperty ev.call v key new

def updateBy (scope : Scope) (op : UpdateOp) (before : Bool) (p : Place) : Run σ Value := do
  let r ← ev.reference scope p
  let v ← ev.read scope r
  let old ← Run.see (·.number v)
  let new := match op with
    | .increment => old + 1
    | .decrement => old - 1
  ev.writeBy w scope (.number new) r
  return .number (if before then new else old)

def assignBy (scope : Scope) (p : Place) (value : Expr) (op : AssignOp) : Run σ Value := do
  let r ← ev.reference scope p
  match op with
  | .assign =>
    let v ← ev.expr scope value
    ev.writeBy w scope v r
    return v
  | .compound op =>
    let old ← ev.read scope r
    let v ← Run.binary ev.call old (← ev.expr scope value) op
    ev.writeBy w scope v r
    return v
  | .logical op =>
    let old ← ev.read scope r
    if skipsRight op old then return old
    else
      let v ← ev.expr scope value
      ev.writeBy w scope v r
      return v

/-- Evaluates an expression with a writer for its own changes of names. -/
def exprBy (scope : Scope) : Expr → Run σ Value
  | .update _ op before p => ev.updateBy w scope op before p
  | .assign _ op p value => ev.assignBy w scope p value op
  | e => ev.evalExpr scope e

/-! ### Statements -/

def declaratorsBy (scope : Scope) (kind : DeclKind) : List Declarator → Run σ Unit
  | [] => return
  | .mk _ name value :: ds => do
    match kind, value with
    | .var, some e => w.assign scope name (← ev.expr scope e)
    | .var, none => w.declareVariable scope name
    | .let_, e | .const, e => w.declare scope name (← ev.valueOf scope e)
    declaratorsBy scope kind ds

def runInitBy (scope : Scope) : Init → Run σ Unit
  | .none => return
  | .declare kind ds => ev.declaratorsBy w scope kind ds
  | .value e => do let _ ← ev.expr scope e

def forLoopBy (scope : Scope) (labels : List String) (init : Init) (test update : Option Expr) (body : Stmt) :
    Run σ Completion := do
  let scope ← headScope scope init
  ev.runInitBy w scope init
  ev.loop do
    if ← ev.goesOn scope test then
      match (← ev.stmt scope [] body).endsLoop? labels with
      | some c => return some c
      | none =>
        let _ ← ev.valueOf scope update
        return none
    else return some .normal

def receiveBy (scope : Scope) (key : String) : Receiver → Run σ Scope
  | .declare .var name => do
    w.assign scope name (.string key)
    return scope
  | .declare .let_ name | .declare .const name => Run.openFrame .block (({} : Table Value).put name (.string key)) scope
  | .place p => do
    ev.writeBy w scope (.string key) (← ev.reference scope p)
    return scope

def forKeysBy (scope : Scope) (labels : List String) (receiver : Receiver) (body : Stmt) :
    List String → Run σ Completion
  | [] => return .normal
  | key :: keys => do
    let inner ← ev.receiveBy w scope key receiver
    match (← ev.stmt inner [] body).endsLoop? labels with
    | some c => return c
    | none => forKeysBy scope labels receiver body keys

def forInBy (scope : Scope) (labels : List String) (receiver : Receiver) (right : Expr) (body : Stmt) :
    Run σ Completion := do
  let v ← ev.expr scope right
  ev.forKeysBy w scope labels receiver body (← Run.see (·.loopKeys v))

/-- Runs a statement with a writer for its own changes of names. -/
def stmtBy (scope : Scope) (labels : List String) : Stmt → Run σ Completion
  | .declare _ kind ds => do
    ev.declaratorsBy w scope kind ds
    return .normal
  | .forLoop _ init test update body => ev.forLoopBy w scope labels init test update body
  | .forIn _ receiver right body => ev.forInBy w scope labels receiver right body
  | s => ev.evalStmt scope labels s

/-! ### With the plain writer -/

theorem writeBy_plain (scope : Scope) (new : Value) (r : Reference) :
    ev.writeBy (.plain ev.call) scope new r = ev.write scope new r := by cases r <;> rfl

theorem exprBy_plain (scope : Scope) (e : Expr) : ev.exprBy (.plain ev.call) scope e = ev.evalExpr scope e := by
  cases e with
  | update s op before p =>
    change ev.updateBy _ scope op before p = ev.update scope op before p
    simp only [updateBy, writeBy_plain]
    rfl
  | assign s op p value =>
    change ev.assignBy _ scope p value op = ev.assign scope p value op
    simp only [assignBy, writeBy_plain]
    rfl
  | _ => rfl

theorem declaratorsBy_plain (scope : Scope) (kind : DeclKind) (ds : List Declarator) :
    ev.declaratorsBy (.plain ev.call) scope kind ds = ev.declarators scope kind ds := by
  induction ds with
  | nil => rfl
  | cons d ds ih =>
    obtain ⟨s, name, value⟩ := d
    cases kind <;> cases value <;> simp only [declaratorsBy, declarators, ih] <;> rfl

theorem receiveBy_plain (scope : Scope) (key : String) (r : Receiver) :
    ev.receiveBy (.plain ev.call) scope key r = ev.receive scope key r := by
  cases r with
  | declare kind name => cases kind <;> rfl
  | place p => simp only [receiveBy, receive, writeBy_plain]

theorem forKeysBy_plain (scope : Scope) (labels : List String) (r : Receiver) (b : Stmt) (keys : List String) :
    ev.forKeysBy (.plain ev.call) scope labels r b keys = ev.forKeys scope labels r b keys := by
  induction keys with
  | nil => rfl
  | cons key keys ih =>
    rw [forKeysBy, ih, receiveBy_plain]
    rfl

theorem stmtBy_plain (scope : Scope) (labels : List String) (s : Stmt) :
    ev.stmtBy (.plain ev.call) scope labels s = ev.evalStmt scope labels s := by
  cases s with
  | declare _ kind ds =>
    change (do ev.declaratorsBy _ scope kind ds; return Completion.normal : Run σ Completion) = _
    rw [declaratorsBy_plain]
    rfl
  | forLoop _ init test update b =>
    have inits (inner : Scope) : ev.runInitBy (.plain ev.call) inner init = ev.runInit inner init := by
      cases init with
      | declare kind ds => exact ev.declaratorsBy_plain inner kind ds
      | _ => rfl
    change ev.forLoopBy _ scope labels init test update b = ev.forLoop scope labels init test update b
    simp only [forLoopBy, inits]
    rfl
  | forIn _ r right b =>
    change ev.forInBy _ scope labels r right b = ev.forIn scope labels r right b
    simp only [forInBy, forIn, forKeysBy_plain]
  | _ => rfl

end Evaluator

end ScriptCoverage.Machine
