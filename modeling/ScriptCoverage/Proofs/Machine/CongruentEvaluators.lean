import ScriptCoverage.Proofs.Machine.Congruence
import ScriptCoverage.Proofs.Machine.Writing

/-!
Evaluators whose runs are related. `Congruence.Alike` says so of two evaluators. Main statements: if two evaluators
are alike, then they evaluate whole expressions (`evalExpr`), statements (`evalStmt`) and calls (`evalCall`) in
related ways. Two constructs do more with the end of a part than go on behind it: `try` with a last block, and the
loading of modules. How these are related is left to the congruence.
-/

namespace ScriptCoverage.Machine

/-! ### What a machine is looked at for -/

theorem Evaluator.typeOf_eq {σ : Type} (ev : Evaluator σ) (scope : Scope) (e : Program.Expr) : ev.typeOf scope e = (do
    let unbound ← (fun m => .ok (isUnboundName m scope e) m : Run σ Bool)
    if unbound then return "undefined" else return (← ev.expr scope e).typeName) := rfl

theorem Run.resolve_eq {σ : Type} (origin : Option String) (path : String) : (Run.resolve origin path : Run σ String) = (do
    let key? ← (fun m => .ok (Module.resolve? m.registry.contains origin path) m : Run σ (Option String))
    key?.elim (Run.fail (.moduleNotFound path (origin.getD Evaluator.rootName))) Pure.pure) := by
  unfold Run.resolve
  funext m
  change EStateM.bind get _ m = EStateM.bind _ _ m
  unfold EStateM.bind
  dsimp only [get, getThe, MonadStateOf.get, EStateM.get]
  cases Module.resolve? m.registry.contains origin path <;> rfl

/-- What loading a module comes to on a machine. -/
theorem Evaluator.load_apply {σ : Type} (ev : Evaluator σ) (key : String) (m : Machine σ) : ev.load key m =
    (match m.loaded.get? key, m.registry.get? key with
    | some r, _ => return exportsOf m.heap r
    | none, none => Run.fail (.moduleNotFound key rootName)
    | none, some factory =>
      match factory.compile with
      | .ok program => ev.runModule key factory program
      | .error cause => Run.fail (.badSource key cause) : Run σ Value) m := rfl

namespace Congruence

open Program (Expr Stmt Block Case Handler Declarator Init Place Entry Func)

variable {σ τ : Type} (L : Congruence σ τ)

/-- Whether two evaluators run parts of constructs in related ways, in scopes that code runs in. -/
structure Alike (ev : Evaluator σ) (ev' : Evaluator τ) : Prop where
  fuel : ev.fuel = ev'.fuel
  hostCall : ∀ f this args, L.Rel (ev.host.call f this args) (ev'.host.call f this args)
  begins : ∀ scope [L.In scope] s, L.Rel (ev.host.begins scope s) (ev'.host.begins scope s)
  expr : ∀ scope [L.In scope] e, L.Rel (ev.expr scope e) (ev'.expr scope e)
  stmt : ∀ scope [L.In scope] labels s, L.Rel (ev.stmt scope labels s) (ev'.stmt scope labels s)
  call : L.RelCalls ev.call ev'.call

/-- Whether two writers change names in related ways, in scopes that code runs in. -/
structure Writes (w : Writer σ) (w' : Writer τ) : Prop where
  assign : ∀ scope [L.In scope] name v, L.Rel (w.assign scope name v) (w'.assign scope name v)
  declareVariable : ∀ scope [L.In scope] name, L.Rel (w.declareVariable scope name) (w'.declareVariable scope name)
  declare : ∀ scope [L.In scope] name v, L.Rel (w.declare scope name v) (w'.declare scope name v)

theorem writes_plain [L.OwnsAll] {call : Caller σ} {call' : Caller τ} (hc : L.RelCalls call call') :
    L.Writes (.plain call) (.plain call') :=
  ⟨fun scope _ name v => L.setName hc scope name v, fun scope _ name => L.declareVariable scope name,
    fun scope _ name v => L.declare scope name v⟩

variable {ev : Evaluator σ} {ev' : Evaluator τ}

/-! ### Operators -/

theorem instanceOf {call : Caller σ} {call' : Caller τ} (hc : L.RelCalls call call') (v constructor : Value) :
    L.Rel (Run.instanceOf call v constructor) (Run.instanceOf call' v constructor) := by
  cases constructor with
  | function r =>
    refine L.bind (L.see _) fun r => ?_
    split
    · exact L.pure _
    · refine L.bind (L.getProperty hc _ _) fun target => ?_
      cases target with
      | object r => exact L.see _
      | _ => exact L.refuse _
  | _ => exact L.refuse _

theorem binary {call : Caller σ} {call' : Caller τ} (hc : L.RelCalls call call') (a b : Value)
    (op : Source.BinaryOp) : L.Rel (Run.binary call a b op) (Run.binary call' a b op) := by
  cases op with
  | eqStrict | neStrict => exact L.pure _
  | in_ =>
    unfold Run.binary
    dsimp only
    split
    · exact L.see _
    · exact L.bind (L.see _) fun _ => L.bind (L.see _) fun _ => L.refuse _
  | instanceOf => exact L.bind (L.instanceOf hc a b) fun _ => L.pure _
  | _ =>
    unfold Run.binary
    exact L.see _

section Parts

variable (hp : L.Alike ev ev')

include hp

/-! ### Parts of constructs -/

theorem holds (scope : Scope) [L.In scope] (e : Expr) : L.Rel (ev.holds scope e) (ev'.holds scope e) :=
  L.bind (hp.expr scope e) fun _ => L.pure _

theorem textOf (scope : Scope) [L.In scope] (e : Expr) : L.Rel (ev.textOf scope e) (ev'.textOf scope e) :=
  L.bind (hp.expr scope e) fun _ => L.see _

theorem valueOf (scope : Scope) [L.In scope] (e : Option Expr) : L.Rel (ev.valueOf scope e) (ev'.valueOf scope e) := by
  cases e with
  | none => exact L.pure _
  | some e => exact hp.expr scope e

theorem values (scope : Scope) [L.In scope] (es : List Expr) : L.Rel (ev.values scope es) (ev'.values scope es) := by
  induction es with
  | nil => exact L.pure _
  | cons e es ih => exact L.bind (hp.expr scope e) fun _ => L.bind ih fun _ => L.pure _

theorem sequence (scope : Scope) [L.In scope] (last : Value) (es : List Expr) :
    L.Rel (ev.sequence scope last es) (ev'.sequence scope last es) := by
  induction es generalizing last with
  | nil => exact L.pure _
  | cons e es ih => exact L.bind (hp.expr scope e) ih

theorem templateText (scope : Scope) [L.In scope] (quasis : List String) (es : List Expr) :
    L.Rel (ev.templateText scope quasis es) (ev'.templateText scope quasis es) := by
  induction quasis generalizing es with
  | nil => cases es <;> exact L.pure _
  | cons q qs ih =>
    cases es with
    | nil => exact L.pure _
    | cons e es => exact L.bind (L.textOf hp scope e) fun _ => L.bind (ih es) fun _ => L.pure _

omit hp in
theorem rounds {round : Run σ (Option Completion)} {round' : Run τ (Option Completion)} (h : L.Rel round round')
    (n : Nat) : L.Rel (Run.rounds round n) (Run.rounds round' n) := by
  induction n with
  | zero => exact L.outOfFuel
  | succ n ih =>
    refine L.bind h fun c => ?_
    cases c with
    | some c => exact L.pure c
    | none => exact ih

theorem loop {round : Run σ (Option Completion)} {round' : Run τ (Option Completion)} (h : L.Rel round round') :
    L.Rel (ev.loop round) (ev'.loop round') := by
  rw [Evaluator.loop, Evaluator.loop, hp.fuel]
  exact L.rounds h _

theorem body (scope : Scope) [L.In scope] (b : List Stmt) : L.Rel (ev.body scope b) (ev'.body scope b) := by
  induction b with
  | nil => exact L.pure _
  | cons s ss ih =>
    refine L.bind (hp.begins scope s) fun _ => L.bind (hp.stmt scope [] s) fun c => ?_
    cases c with
    | normal => exact ih
    | _ => exact L.pure _

/-! ### Places -/

theorem reference (scope : Scope) [L.In scope] (p : Place) : L.Rel (ev.reference scope p) (ev'.reference scope p) := by
  cases p with
  | name s n => exact L.pure _
  | member s o key => exact L.bind (hp.expr scope o) fun _ => L.pure _
  | index s o key => exact L.bind (hp.expr scope o) fun _ => L.bind (L.textOf hp scope key) fun _ => L.pure _

theorem read (scope : Scope) (r : Evaluator.Reference) : L.Rel (ev.read scope r) (ev'.read scope r) := by
  cases r with
  | name n => exact L.getName hp.call scope n
  | property v key => exact L.getProperty hp.call v key

section Writing

variable {w : Writer σ} {w' : Writer τ} (hw : L.Writes w w')

include hw

theorem writeBy (scope : Scope) [L.In scope] (new : Value) (r : Evaluator.Reference) :
    L.Rel (ev.writeBy w scope new r) (ev'.writeBy w' scope new r) := by
  cases r with
  | name n => exact hw.assign scope n new
  | property v key => exact L.setProperty hp.call v key new

theorem updateBy (scope : Scope) [L.In scope] (op : Source.UpdateOp) (before : Bool) (p : Place) :
    L.Rel (ev.updateBy w scope op before p) (ev'.updateBy w' scope op before p) := by
  refine L.bind (L.reference hp scope p) fun r => L.bind (L.read hp scope r) fun v => L.bind (L.see _) fun _ => ?_
  exact L.bind (L.writeBy hp hw scope _ r) fun _ => L.pure _

theorem assignBy (scope : Scope) [L.In scope] (p : Place) (e : Expr) (op : Source.AssignOp) :
    L.Rel (ev.assignBy w scope p e op) (ev'.assignBy w' scope p e op) := by
  refine L.bind (L.reference hp scope p) fun r => ?_
  have store (v : Value) : L.Rel (do ev.writeBy w scope v r; return v) (do ev'.writeBy w' scope v r; return v) :=
    L.bind (L.writeBy hp hw scope v r) fun _ => L.pure _
  cases op with
  | assign => exact L.bind (hp.expr scope e) store
  | compound op =>
    refine L.bind (L.read hp scope r) fun old => L.bind (hp.expr scope e) fun right => ?_
    exact L.bind (L.binary hp.call old right op) store
  | logical op =>
    refine L.bind (L.read hp scope r) fun old => ?_
    split
    · exact L.pure _
    · exact L.bind (hp.expr scope e) store

end Writing

theorem delete (scope : Scope) [L.In scope] (e : Expr) : L.Rel (ev.delete scope e) (ev'.delete scope e) := by
  cases e with
  | place p =>
    cases p with
    | name => exact L.bind (hp.expr scope _) fun _ => L.pure _
    | member | index =>
      refine L.bind (L.reference hp scope _) fun r => ?_
      cases r with
      | name => exact L.pure _
      | property v key => exact L.deleteProperty v key
  | _ => exact L.bind (hp.expr scope _) fun _ => L.pure _

/-! ### Unary operators -/

omit hp in
/-- Whether an expression is a name that is bound nowhere. -/
theorem isUnbound (scope : Scope) (e : Expr) :
    L.Rel (fun m => .ok (Evaluator.isUnboundName m scope e) m)
      (fun m => .ok (Evaluator.isUnboundName m scope e) m) := by
  cases e with
  | place p =>
    cases p with
    | name s n => exact L.map (L.find scope n) Option.isNone
    | _ => exact L.pure false
  | _ => exact L.pure false

theorem typeOf (scope : Scope) [L.In scope] (e : Expr) : L.Rel (ev.typeOf scope e) (ev'.typeOf scope e) := by
  rw [Evaluator.typeOf_eq, Evaluator.typeOf_eq]
  refine L.bind (L.isUnbound scope e) fun unbound => ?_
  split
  · exact L.pure _
  · exact L.bind (hp.expr scope e) fun _ => L.pure _

theorem unary (scope : Scope) [L.In scope] (e : Expr) (op : Source.UnaryOp) :
    L.Rel (ev.unary scope e op) (ev'.unary scope e op) := by
  cases op with
  | typeOf => exact L.bind (L.typeOf hp scope e) fun _ => L.pure _
  | delete => exact L.bind (L.delete hp scope e) fun _ => L.pure _
  | not => exact L.bind (L.holds hp scope e) fun _ => L.pure _
  | neg | plus | bitNot => exact L.bind (hp.expr scope e) fun _ => L.see _
  | void => exact L.bind (hp.expr scope e) fun _ => L.pure _

/-! ### Literals and calls -/

theorem keyText (scope : Scope) [L.In scope] (k : Program.Key) : L.Rel (ev.keyText scope k) (ev'.keyText scope k) := by
  cases k with
  | fixed text => exact L.pure _
  | computed e => exact L.textOf hp scope e

theorem entries (scope : Scope) [L.In scope] (o : Object) (es : List Entry) :
    L.Rel (ev.entries scope o es) (ev'.entries scope o es) := by
  induction es generalizing o with
  | nil => exact L.pure _
  | cons e es ih =>
    obtain ⟨kind, key, value⟩ := e
    exact L.bind (L.keyText hp scope key) fun _ => L.bind (hp.expr scope value) fun _ => ih _

theorem callee (scope : Scope) [L.In scope] (e : Expr) : L.Rel (ev.callee scope e) (ev'.callee scope e) := by
  cases e with
  | place p =>
    cases p with
    | name => exact L.bind (hp.expr scope _) fun _ => L.pure _
    | member s o key =>
      exact L.bind (hp.expr scope o) fun v => L.bind (L.getProperty hp.call v key) fun _ => L.pure _
    | index s o key =>
      refine L.bind (hp.expr scope o) fun v => L.bind (L.textOf hp scope key) fun text => ?_
      exact L.bind (L.getProperty hp.call v text) fun _ => L.pure _
  | _ => exact L.bind (hp.expr scope _) fun _ => L.pure _

theorem construct (callee : Value) (args : List Value) :
    L.Rel (ev.construct callee args) (ev'.construct callee args) := by
  have refused : L.Rel (do Run.refuse (.notConstructor (← Run.see (·.text callee))) : Run σ Value)
      (do Run.refuse (.notConstructor (← Run.see (·.text callee)))) :=
    L.bind (L.see _) fun _ => L.refuse _
  cases callee with
  | function r =>
    refine L.bind (L.see _) fun constructs => ?_
    cases constructs with
    | false => exact refused
    | true =>
      refine L.bind (L.see _) fun ⟨r, args⟩ => L.bind (L.getProperty hp.call _ _) fun proto => ?_
      exact L.bind (L.newObject _) fun this => L.bind (hp.call _ this args) fun _ => L.pure _
  | _ => exact refused

/-! ### All expressions -/

theorem exprBy {w : Writer σ} {w' : Writer τ} (hw : L.Writes w w') (scope : Scope) [L.In scope] (e : Expr) :
    L.Rel (ev.exprBy w scope e) (ev'.exprBy w' scope e) := by
  cases e with
  | hole | null | bool | number | string => exact L.pure _
  | regex s pattern flags => exact L.newRegex pattern flags
  | template s quasis es => exact L.bind (L.templateText hp scope quasis es) fun _ => L.pure _
  | place p => exact L.bind (L.reference hp scope p) fun r => L.read hp scope r
  | this s => exact L.look fun m => m.receiver scope
  | array s es => exact L.bind (L.values hp scope es) fun vs => L.newArray vs
  | object s es => exact L.bind (L.entries hp scope _ es) fun o => L.newObject o
  | function decl => exact L.closure scope decl
  | unary s op e => exact L.unary hp scope e op
  | update s op before p => exact L.updateBy hp hw scope op before p
  | binary s op l r =>
    refine L.bind (hp.expr scope l) fun left => L.bind (hp.expr scope r) fun right => ?_
    exact L.binary hp.call left right op
  | logical s op l r =>
    refine L.bind (hp.expr scope l) fun left => ?_
    split
    · exact L.pure _
    · exact hp.expr scope r
  | assign s op p value => exact L.assignBy hp hw scope p value op
  | conditional s test consequent alternate =>
    refine L.bind (L.holds hp scope test) fun holds => ?_
    split
    · exact hp.expr scope consequent
    · exact hp.expr scope alternate
  | call s f es =>
    refine L.bind (L.callee hp scope f) fun ⟨function, this⟩ => L.bind (L.values hp scope es) fun args => ?_
    split
    · exact hp.call function this args
    · exact L.refuse _
  | construct s f es =>
    refine L.bind (hp.expr scope f) fun function => L.bind (L.values hp scope es) fun args => ?_
    refine L.bind (L.see _) fun constructs => ?_
    split
    · exact L.construct hp function args
    · exact L.refuse _
  | sequence s es => exact L.sequence hp scope _ es

theorem evalExpr [L.OwnsAll] (scope : Scope) [L.In scope] (e : Expr) : L.Rel (ev.evalExpr scope e) (ev'.evalExpr scope e) := by
  rw [← Evaluator.exprBy_plain, ← Evaluator.exprBy_plain]
  exact L.exprBy hp (L.writes_plain hp.call) scope e

/-! ### Declarations and loops -/

theorem whileLoop (scope : Scope) [L.In scope] (labels : List String) (test : Expr) (b : Stmt) :
    L.Rel (ev.whileLoop scope labels test b) (ev'.whileLoop scope labels test b) := by
  refine L.loop hp (L.bind (L.holds hp scope test) fun holds => ?_)
  split
  · exact L.bind (hp.stmt scope [] b) fun _ => L.pure _
  · exact L.pure _

theorem doWhile (scope : Scope) [L.In scope] (labels : List String) (b : Stmt) (test : Expr) :
    L.Rel (ev.doWhile scope labels b test) (ev'.doWhile scope labels b test) := by
  refine L.loop hp (L.bind (hp.stmt scope [] b) fun c => ?_)
  cases c.endsLoop? labels with
  | some c => exact L.pure _
  | none =>
    refine L.bind (L.holds hp scope test) fun holds => ?_
    split
    · exact L.pure _
    · exact L.pure _

omit hp in
/-- What runs behind the head of a loop may run in a frame of its own. -/
theorem headScope {α : Type} (scope : Scope) [L.In scope] (i : Init) {f : Scope → Run σ α} {g : Scope → Run τ α}
    (behind : ∀ inner [L.In inner], L.Rel (f inner) (g inner)) :
    L.Rel (Evaluator.headScope scope i >>= f) (Evaluator.headScope scope i >>= g) := by
  cases i with
  | declare kind ds =>
    cases kind with
    | var => exact behind scope
    | _ => exact L.opened .block {} fun r _ _ => behind (r :: scope)
  | _ => exact behind scope

theorem goesOn (scope : Scope) [L.In scope] (e : Option Expr) : L.Rel (ev.goesOn scope e) (ev'.goesOn scope e) := by
  cases e with
  | none => exact L.pure _
  | some e => exact L.holds hp scope e

section Writing

variable {w : Writer σ} {w' : Writer τ} (hw : L.Writes w w')

include hw

theorem declaratorsBy (scope : Scope) [L.In scope] (kind : Source.DeclKind) (ds : List Declarator) :
    L.Rel (ev.declaratorsBy w scope kind ds) (ev'.declaratorsBy w' scope kind ds) := by
  induction ds with
  | nil => exact L.pure _
  | cons d ds ih =>
    obtain ⟨s, name, value⟩ := d
    cases kind with
    | var =>
      cases value with
      | none => exact L.bind (hw.declareVariable scope name) fun _ => ih
      | some e => exact L.bind (hp.expr scope e) fun v => L.bind (hw.assign scope name v) fun _ => ih
    | _ => exact L.bind (L.valueOf hp scope value) fun v => L.bind (hw.declare scope name v) fun _ => ih

theorem runInitBy (scope : Scope) [L.In scope] (i : Init) : L.Rel (ev.runInitBy w scope i) (ev'.runInitBy w' scope i) := by
  cases i with
  | none => exact L.pure _
  | declare kind ds => exact L.declaratorsBy hp hw scope kind ds
  | value e => exact L.bind (hp.expr scope e) fun _ => L.pure _

theorem forLoopBy (scope : Scope) [L.In scope] (labels : List String) (i : Init) (test update : Option Expr) (b : Stmt) :
    L.Rel (ev.forLoopBy w scope labels i test update b) (ev'.forLoopBy w' scope labels i test update b) := by
  refine L.headScope scope i fun inner _ => L.bind (L.runInitBy hp hw inner i) fun _ => ?_
  refine L.loop hp (L.bind (L.goesOn hp inner test) fun goesOn => ?_)
  split
  · refine L.bind (hp.stmt inner [] b) fun c => ?_
    cases c.endsLoop? labels with
    | some c => exact L.pure _
    | none => exact L.bind (L.valueOf hp inner update) fun _ => L.pure _
  · exact L.pure _

/-- What runs behind the receiver of a key may run in a frame of its own. -/
theorem receiveBy {α : Type} (scope : Scope) [L.In scope] (key : String) (r : Program.Receiver) {f : Scope → Run σ α}
    {g : Scope → Run τ α} (behind : ∀ inner [L.In inner], L.Rel (f inner) (g inner)) :
    L.Rel (ev.receiveBy w scope key r >>= f) (ev'.receiveBy w' scope key r >>= g) := by
  cases r with
  | declare kind name =>
    cases kind with
    | var =>
      simp only [Evaluator.receiveBy, bind_assoc, pure_bind]
      exact L.bind (hw.assign scope name _) fun _ => behind scope
    | _ => exact L.opened .block _ fun r _ _ => behind (r :: scope)
  | place p =>
    simp only [Evaluator.receiveBy, bind_assoc, pure_bind]
    exact L.bind (L.reference hp scope p) fun r => L.bind (L.writeBy hp hw scope _ r) fun _ => behind scope

theorem forKeysBy (scope : Scope) [L.In scope] (labels : List String) (r : Program.Receiver) (b : Stmt)
    (keys : List String) : L.Rel (ev.forKeysBy w scope labels r b keys) (ev'.forKeysBy w' scope labels r b keys) := by
  induction keys with
  | nil => exact L.pure _
  | cons key keys ih =>
    refine L.receiveBy hp hw scope key r fun inner _ => L.bind (hp.stmt inner [] b) fun c => ?_
    cases c.endsLoop? labels with
    | some c => exact L.pure _
    | none => exact ih

theorem forInBy (scope : Scope) [L.In scope] (labels : List String) (r : Program.Receiver) (e : Expr) (b : Stmt) :
    L.Rel (ev.forInBy w scope labels r e b) (ev'.forInBy w' scope labels r e b) :=
  L.bind (hp.expr scope e) fun _ => L.bind (L.see _) fun keys => L.forKeysBy hp hw scope labels r b keys

end Writing

/-! ### Branches and handlers -/

theorem matchingCases (scope : Scope) [L.In scope] (v : Value) (cs : List Case) :
    L.Rel (ev.matchingCases scope v cs) (ev'.matchingCases scope v cs) := by
  induction cs with
  | nil => exact L.pure _
  | cons c cs ih =>
    obtain ⟨s, test, b⟩ := c
    cases test with
    | none => exact ih
    | some test =>
      refine L.bind (hp.expr scope test) fun w => ?_
      split
      · exact L.pure _
      · exact ih

theorem runCases (scope : Scope) [L.In scope] (cs : List Case) : L.Rel (ev.runCases scope cs) (ev'.runCases scope cs) := by
  induction cs with
  | nil => exact L.pure _
  | cons c cs ih =>
    obtain ⟨s, test, b⟩ := c
    refine L.bind (L.body hp scope b) fun c => ?_
    cases c with
    | normal => exact ih
    | broke label => cases label <;> exact L.pure _
    | returned | continued => exact L.pure _

theorem switch (scope : Scope) [L.In scope] (e : Expr) (cs : List Case) : L.Rel (ev.switch scope e cs) (ev'.switch scope e cs) :=
  L.bind (hp.expr scope e) fun v => L.bind (L.matchingCases hp scope v cs) fun _ => L.runCases hp scope _

theorem handle (scope : Scope) [L.In scope] (e : RuntimeError) (h : Handler) :
    L.Rel (ev.handle scope e h) (ev'.handle scope e h) := by
  obtain ⟨s, param, b⟩ := h
  exact L.bind (L.caughtValue e) fun _ => L.opened .block _ fun r _ _ => L.body hp (r :: scope) b.body

theorem guarded (scope : Scope) [L.In scope] (b : Block) (h : Option Handler) :
    L.Rel (ev.guarded scope b h) (ev'.guarded scope b h) := by
  refine L.attempt (L.body hp scope b.body) (fun c => L.pure c) (fun e he => ?_) fun e he => ?_
  · cases h with
    | none => exact L.fail he
    | some h =>
      dsimp only
      rw [if_pos he, if_pos he]
      exact L.handle hp scope e h
  · cases h with
    | none => exact ⟨rfl, rfl⟩
    | some h => constructor <;> exact if_neg (Bool.eq_false_iff.1 he)

/-! ### All statements -/

theorem labeled (scope : Scope) [L.In scope] (labels : List String) (label : String) (b : Stmt) :
    L.Rel (ev.labeled scope labels label b) (ev'.labeled scope labels label b) := by
  refine L.bind (hp.stmt scope (label :: labels) b) fun c => ?_
  match c with
  | .broke (some _) | .broke none | .normal | .returned _ | .continued _ => exact L.pure _

theorem withObject (scope : Scope) [L.In scope] (e : Expr) (b : Stmt) :
    L.Rel (ev.withObject scope e b) (ev'.withObject scope e b) := by
  refine L.bind (hp.expr scope e) fun v => ?_
  split
  · exact L.refuse _
  · exact L.opened (.object v) {} fun r _ _ => hp.stmt (r :: scope) [] b

/-- Statements are related if those with a last block are. -/
theorem stmtBy {w : Writer σ} {w' : Writer τ} (hw : L.Writes w w') (scope : Scope) [L.In scope] (labels : List String)
    (s : Stmt)
    (last : ∀ span b h f, s = .tryCatch span b h (some f) →
      L.Rel (ev.tryCatch scope b h (some f)) (ev'.tryCatch scope b h (some f))) :
    L.Rel (ev.stmtBy w scope labels s) (ev'.stmtBy w' scope labels s) := by
  cases s with
  | expression _ e => exact L.bind (hp.expr scope e) fun _ => L.pure _
  | declare _ kind ds => exact L.bind (L.declaratorsBy hp hw scope kind ds) fun _ => L.pure _
  | function | debugger | empty | breakTo | continueTo => exact L.pure _
  | returnValue _ e => exact L.bind (L.valueOf hp scope e) fun _ => L.pure _
  | branch _ test consequent alternate =>
    refine L.bind (L.holds hp scope test) fun holds => ?_
    split
    · exact hp.stmt scope [] consequent
    · cases alternate with
      | none => exact L.pure _
      | some s => exact hp.stmt scope [] s
  | block b => exact L.body hp scope b.body
  | whileLoop _ test b => exact L.whileLoop hp scope labels test b
  | doWhile _ b test => exact L.doWhile hp scope labels b test
  | forLoop _ i test update b => exact L.forLoopBy hp hw scope labels i test update b
  | forIn _ r e b => exact L.forInBy hp hw scope labels r e b
  | labeled _ label b => exact L.labeled hp scope labels label b
  | switch _ e cs => exact L.switch hp scope e cs
  | throwValue _ e => exact L.bind (hp.expr scope e) fun _ => L.fail rfl
  | tryCatch span b h f =>
    cases f with
    | none => exact L.guarded hp scope b h
    | some f => exact last span b h f rfl
  | withObject _ e b => exact L.withObject hp scope e b

theorem evalStmt [L.OwnsAll] (scope : Scope) [L.In scope] (labels : List String) (s : Stmt)
    (last : ∀ span b h f, s = .tryCatch span b h (some f) →
      L.Rel (ev.tryCatch scope b h (some f)) (ev'.tryCatch scope b h (some f))) :
    L.Rel (ev.evalStmt scope labels s) (ev'.evalStmt scope labels s) := by
  rw [← Evaluator.stmtBy_plain, ← Evaluator.stmtBy_plain]
  exact L.stmtBy hp (L.writes_plain hp.call) scope labels s last

/-! ### Calls and modules -/

omit hp in
/-- The body of a function runs in a frame of its own. -/
theorem enter {α : Type} (f this : Value) (args : List Value) (decl : Func) (scope : Scope) [L.In scope]
    {k : Scope → Run σ α} {k' : Scope → Run τ α} (behind : ∀ inner [L.In inner] [L.Owns inner], L.Rel (k inner) (k' inner)) :
    L.Rel (Run.enter f this args decl scope >>= k) (Run.enter f this args decl scope >>= k') := by
  unfold Run.enter
  split
  · exact L.opened _ _ fun r _ _ => behind (r :: scope)
  · simp only [bind_assoc]
    exact L.bind (L.newArray args) fun list => L.opened _ _ fun r _ _ => behind (r :: scope)

theorem runBody (scope : Scope) [L.In scope] (decl : Func) : L.Rel (ev.runBody scope decl) (ev'.runBody scope decl) := by
  cases decl with
  | mk s name params isArrow b => exact L.body hp scope b.body
  | lambda s params e => exact hp.stmt scope [] _

theorem callScript (f this : Value) (args : List Value) (decl : Func) (scope : Scope) [L.In scope] :
    L.Rel (ev.callScript f this args decl scope) (ev'.callScript f this args decl scope) := by
  refine L.level (L.enter f this args decl scope fun inner _ _ => L.bind (L.hoist inner _) fun _ => ?_)
  refine L.bind (L.runBody hp inner decl) fun c => ?_
  cases c with
  | returned v => exact L.pure _
  | _ => exact L.pure _

theorem runFactory [L.In globalScope] (params : List String) (program : Program) (this : Value) (args : List Value) :
    L.Rel (ev.runFactory params program this args) (ev'.runFactory params program this args) := by
  refine L.opened _ _ fun r _ _ => L.bind (L.hoist (r :: globalScope) _) fun _ => ?_
  exact L.bind (L.body hp (r :: globalScope) program.body) fun _ => L.pure _

omit hp in
theorem resolve (origin : Option String) (path : String) :
    L.Rel (Run.resolve origin path) (Run.resolve origin path) := by
  rw [Run.resolve_eq, Run.resolve_eq]
  refine L.bind (L.onRegistry fun t => Module.resolve? t.contains origin path) fun key? => ?_
  cases key? with
  | some key => exact L.pure _
  | none => exact L.fail rfl

section Loading

variable (loads : ∀ key, L.Rel (ev.load key) (ev'.load key))

include loads

omit hp in
theorem require (origin : Option String) (path : String) : L.Rel (ev.require origin path) (ev'.require origin path) :=
  L.bind (L.resolve origin path) fun key => loads key

theorem callNative (this : Value) (args : List Value) (n : Native) :
    L.Rel (ev.callNative this args n) (ev'.callNative this args n) := by
  cases n with
  | builtin b => exact L.builtin hp.call this args b
  | require origin =>
    match args with
    | .string path :: _ => exact L.require loads origin path
    | [] | .undefined :: _ | .null :: _ | .bool _ :: _ | .number _ :: _ | .object _ :: _ | .array _ :: _
    | .function _ :: _ | .regex _ :: _ => exact L.refuse _
  | host f => exact hp.hostCall f this args

/-- Calls are related if the loading of modules is. -/
theorem evalCall [L.Everywhere] (f this : Value) (args : List Value) : L.Rel (ev.evalCall f this args) (ev'.evalCall f this args) := by
  cases f with
  | function r =>
    refine L.bind (L.see _) fun g => ?_
    cases g.kind with
    | script decl scope => exact L.callScript hp _ this args decl scope
    | native n => exact L.callNative hp loads this args n
    | bound target receiver more => exact hp.call _ receiver _
  | _ => exact L.bind (L.see _) fun _ => L.refuse _

end Loading

/-! ### Texts -/

theorem script [L.In globalScope] (last : Value) (ss : List Stmt) : L.Rel (ev.script last ss) (ev'.script last ss) := by
  induction ss generalizing last with
  | nil => exact L.pure _
  | cons s ss ih =>
    cases s with
    | expression span e =>
      exact L.bind (hp.begins globalScope _) fun _ => L.bind (hp.expr globalScope e) fun v => ih v
    | _ =>
      refine L.bind (hp.begins globalScope _) fun _ => L.bind (hp.stmt globalScope [] _) fun c => ?_
      cases c with
      | normal => exact ih last
      | _ => exact L.pure _

theorem run [L.In globalScope] [L.Owns globalScope] (source : String) : L.Rel (ev.run source) (ev'.run source) := by
  unfold Evaluator.run
  cases Source.compile source with
  | error cause => exact L.fail rfl
  | ok program => exact L.bind (L.hoist globalScope _) fun _ => L.script hp _ program.body

end Parts

end Congruence

end ScriptCoverage.Machine
