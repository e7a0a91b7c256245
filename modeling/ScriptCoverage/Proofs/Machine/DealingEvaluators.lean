import ScriptCoverage.Proofs.Machine.CongruentEvaluators
import ScriptCoverage.Proofs.Machine.DealingAccess
import ScriptCoverage.Proofs.Machine.Loading

/-!
Evaluators that deal in objects that exist. Main statement: `Deals.task` — whatever a host asks of a machine, the run
deals in objects that exist if the functions of the host do.
-/

namespace ScriptCoverage.Machine

open Program (Expr Stmt Block Case Handler Declarator Init Place Entry Func)

variable {σ : Type} {held : σ → List Value}

variable (held) in
/-- Whether the functions of a host deal in objects that exist, and the host holds nothing new when it notes what happens
to modules. -/
structure Host.Deals (host : Host σ) : Prop where
  call : ∀ f this args, Machine.Deals held (this :: args) ([·]) (host.call f this args)
  begins : ∀ scope s, Machine.Deals held [] (fun _ => []) (host.begins scope s)
  loads : ∀ e s, Covers (held s) (held (host.loads e s))

variable (held) in
/-- Whether an evaluator runs parts of constructs so that they deal in objects that exist. -/
structure Evaluator.Deals (ev : Evaluator σ) : Prop where
  host : ev.host.Deals held
  expr : ∀ scope e, Machine.Deals held [] ([·]) (ev.expr scope e)
  stmt : ∀ scope labels s, Machine.Deals held [] Completion.values (ev.stmt scope labels s)
  call : Deals.Calls held ev.call

/-- The values that a host gives to a machine. -/
@[simp, reducible]
def Task.values : Task → List Value
  | eval _ | require .. => []
  | call f this args => f :: this :: args
  | construct f args => f :: args
  | get v _ => [v]
  | set v _ new => [v, new]

/-! ### Values that are known -/

section

variable {known args : List Value}

instance {c : Completion} [h : Covers known c.values] (labels : List String) :
    Covers known (valuesIn Completion.values (c.endsLoop? labels)) := by
  refine ⟨fun n enough all => ?_⟩
  unfold Completion.endsLoop?
  split
  · exact allWithin_nil
  · exact allWithin_nil
  · exact allWithin_nil
  · split <;> exact allWithin_nil
  · exact h.within n enough all

theorem covers_endsLoop (c : Completion) (labels : List String) (known : List Value) :
    Covers (c.values ++ known) (valuesIn Completion.values (c.endsLoop? labels)) := inferInstance

instance [ha : Covers known args] {bindings : Table Value} [hb : Covers known bindings.values] (params : List String) :
    Covers known (bindParams bindings params args).values := by
  induction params generalizing args bindings with
  | nil => exact hb
  | cons p params ih =>
    have first : Known known (args.head?.getD .undefined) := by
      refine ⟨fun n enough all => ?_⟩
      cases args with
      | nil => trivial
      | cons v vs => exact ha.within n enough all v List.mem_cons_self
    have rest : Covers known args.tail :=
      ⟨fun n enough all => (ha.within n enough all).of_subset fun _ => List.mem_of_mem_tail⟩
    exact ih

end

namespace Deals

variable {vs : List Value}

/-! ### Operators -/

theorem instanceOf {call : Caller σ} (hc : Calls held call) (v constructor : Value) :
    Deals held [] (fun _ => []) (Run.instanceOf call v constructor) := by
  cases constructor with
  | function r =>
    refine bind (seeNone _) fun r => ?_
    split
    · exact pure _
    · refine bind (getProperty hc (.function r) "prototype").of fun target => ?_
      cases target with
      | object r => exact seeNone _
      | _ => exact refuse _
  | _ => exact refuse _

theorem binary {call : Caller σ} (hc : Calls held call) (a b : Value) (op : Source.BinaryOp) :
    Deals held vs ([·]) (Run.binary call a b op) := by
  cases op with
  | eqStrict | neStrict => exact pure _
  | in_ =>
    unfold Run.binary
    dsimp only
    split
    · exact seePlain fun _ _ => within_bool _
    · exact bind (seeNone _) fun _ => bind (seeNone _) fun _ => refuse _
  | instanceOf => exact bind (instanceOf hc a b).of fun _ => pure _
  | add =>
    unfold Run.binary
    refine seePlain fun H n => ?_
    unfold Heap.sum
    split <;> trivial
  | _ =>
    unfold Run.binary
    exact seePlain fun _ _ => by trivial

section Parts

variable {ev : Evaluator σ} (hp : ev.Deals held)

include hp

/-! ### Parts of constructs -/

theorem holds (scope : Scope) (e : Expr) : Deals held vs (fun _ => []) (ev.holds scope e) :=
  bind (hp.expr scope e).of fun _ => pure _

theorem textOf (scope : Scope) (e : Expr) : Deals held vs (fun _ => []) (ev.textOf scope e) :=
  bind (hp.expr scope e).of fun _ => seeNone _

theorem valueOf (scope : Scope) (e : Option Expr) : Deals held vs ([·]) (ev.valueOf scope e) := by
  cases e with
  | none => exact pure _
  | some e => exact (hp.expr scope e).of

theorem values (scope : Scope) (es : List Expr) : Deals held vs (fun vs => vs) (ev.values scope es) := by
  induction es generalizing vs with
  | nil => exact pure []
  | cons e es ih => exact bind (hp.expr scope e).of fun v => bind ih fun vs => pure (v :: vs)

theorem sequence (scope : Scope) (last : Value) (es : List Expr) :
    Deals held [last] ([·]) (ev.sequence scope last es) := by
  induction es generalizing last with
  | nil => exact pure last
  | cons e es ih => exact bind (hp.expr scope e).of fun v => (ih v).of

theorem templateText (scope : Scope) (quasis : List String) (es : List Expr) :
    Deals held vs (fun _ => []) (ev.templateText scope quasis es) := by
  induction quasis generalizing vs es with
  | nil => cases es <;> exact pure _
  | cons q qs ih =>
    cases es with
    | nil => exact pure _
    | cons e es => exact bind (textOf hp scope e) fun _ => bind (ih es) fun _ => pure _

omit hp in
theorem rounds {round : Run σ (Option Completion)} (h : Deals held [] (valuesIn Completion.values) round) (n : Nat) :
    Deals held vs Completion.values (Run.rounds round n) := by
  induction n generalizing vs with
  | zero => exact outOfFuel
  | succ n ih =>
    refine bind h.of fun c => ?_
    cases c with
    | some c => exact pure c
    | none => exact ih

theorem body (scope : Scope) (b : List Stmt) : Deals held vs Completion.values (ev.body scope b) := by
  induction b generalizing vs with
  | nil => exact pure _
  | cons s ss ih =>
    refine bind (hp.host.begins scope s).of fun _ => bind (hp.stmt scope [] s).of fun c => ?_
    cases c with
    | normal => exact ih
    | _ => exact pure _

/-! ### Places -/

theorem reference (scope : Scope) (p : Place) :
    Deals held vs Evaluator.Reference.values (ev.reference scope p) := by
  cases p with
  | name s n => exact pure _
  | member s o key => exact bind (hp.expr scope o).of fun _ => pure _
  | index s o key => exact bind (hp.expr scope o).of fun _ => bind (textOf hp scope key) fun _ => pure _

theorem read (scope : Scope) (r : Evaluator.Reference) : Deals held r.values ([·]) (ev.read scope r) := by
  cases r with
  | name n => exact getName hp.call scope n
  | property v key => exact getProperty hp.call v key

theorem write (scope : Scope) (new : Value) (r : Evaluator.Reference) :
    Deals held (new :: r.values) (fun _ => []) (ev.write scope new r) := by
  cases r with
  | name n => exact setName hp.call scope n new
  | property v key => exact (setProperty hp.call v key new).of

theorem update (scope : Scope) (op : Source.UpdateOp) (before : Bool) (p : Place) :
    Deals held vs ([·]) (ev.update scope op before p) := by
  refine bind (reference hp scope p) fun r => bind (read hp scope r).of fun v => bind (seeNone _) fun _ => ?_
  exact bind (write hp scope _ r).of fun _ => pure _

theorem assign (scope : Scope) (p : Place) (e : Expr) (op : Source.AssignOp) :
    Deals held vs ([·]) (ev.assign scope p e op) := by
  refine bind (reference hp scope p) fun r => ?_
  have store (v : Value) : Deals held (v :: r.values) ([·]) (do ev.write scope v r; return v) :=
    bind (write hp scope v r) fun _ => pure v
  cases op with
  | assign => exact bind (hp.expr scope e).of fun v => (store v).of
  | compound op =>
    refine bind (read hp scope r).of fun old => bind (hp.expr scope e).of fun right => ?_
    exact bind (binary hp.call old right op) fun v => (store v).of
  | logical op =>
    refine bind (read hp scope r).of fun old => ?_
    split
    · exact pure _
    · exact bind (hp.expr scope e).of fun v => (store v).of

theorem delete (scope : Scope) (e : Expr) : Deals held vs (fun _ => []) (ev.delete scope e) := by
  cases e with
  | place p =>
    cases p with
    | name => exact bind (hp.expr scope _).of fun _ => pure _
    | member | index =>
      refine bind (reference hp scope _) fun r => ?_
      cases r with
      | name => exact pure _
      | property v key => exact deleteProperty v key
  | _ => exact bind (hp.expr scope _).of fun _ => pure _

/-! ### Unary operators -/

theorem typeOf (scope : Scope) (e : Expr) : Deals held vs (fun _ => []) (ev.typeOf scope e) := by
  rw [Evaluator.typeOf_eq]
  refine bind (lookNone _) fun unbound => ?_
  split
  · exact pure _
  · exact bind (hp.expr scope e).of fun _ => pure _

theorem unary (scope : Scope) (e : Expr) (op : Source.UnaryOp) : Deals held vs ([·]) (ev.unary scope e op) := by
  cases op with
  | typeOf => exact bind (typeOf hp scope e) fun _ => pure _
  | delete => exact bind (delete hp scope e) fun _ => pure _
  | not => exact bind (holds hp scope e) fun _ => pure _
  | neg | plus | bitNot => exact bind (hp.expr scope e).of fun _ => seePlain fun _ _ => by trivial
  | void => exact bind (hp.expr scope e).of fun _ => pure _

/-! ### Literals and calls -/

theorem keyText (scope : Scope) (k : Program.Key) : Deals held vs (fun _ => []) (ev.keyText scope k) := by
  cases k with
  | fixed text => exact pure _
  | computed e => exact textOf hp scope e

theorem entries (scope : Scope) (o : Object) (es : List Entry) :
    Deals held o.values Object.values (ev.entries scope o es) := by
  induction es generalizing o with
  | nil => exact pure o
  | cons e es ih =>
    obtain ⟨kind, key, value⟩ := e
    refine bind (keyText hp scope key) fun key => bind (hp.expr scope value).of fun v => ?_
    cases kind with
    | init => exact (ih _).of
    | get => exact (ih _).of
    | set => exact (ih _).of

theorem callee (scope : Scope) (e : Expr) :
    Deals held vs (fun p => [p.1, p.2]) (ev.callee scope e) := by
  cases e with
  | place p =>
    cases p with
    | name => exact bind (hp.expr scope _).of fun _ => pure _
    | member s o key =>
      exact bind (hp.expr scope o).of fun v => bind (getProperty hp.call v key).of fun _ => pure _
    | index s o key =>
      refine bind (hp.expr scope o).of fun v => bind (textOf hp scope key) fun text => ?_
      exact bind (getProperty hp.call v text).of fun _ => pure _
  | _ => exact bind (hp.expr scope _).of fun _ => pure _

/-- A new object gets the prototype that is read off the function, which is there. -/
theorem construct (callee : Value) (args : List Value) :
    Deals held (callee :: args) ([·]) (ev.construct callee args) := by
  have refused : Deals held (callee :: args) ([·])
      (do Run.refuse (.notConstructor (← Run.see (·.text callee))) : Run σ Value) :=
    bind (seeNone _) fun _ => refuse _
  cases callee with
  | function r =>
    refine bind (seeNone _) fun constructs => ?_
    cases constructs with
    | false => exact refused.of
    | true =>
      have unbound : Deals held args (fun p => p.2) (Run.see (·.unbound r args) : Run σ (FunctionRef × List Value)) :=
        see fun H closed known => closed.unbound r known
      refine bind unbound.of fun ⟨r, args⟩ => bind (getProperty hp.call (.function r) "prototype").of fun proto => ?_
      cases proto with
      | object proto =>
        refine bind (newObject { proto := some proto }).of fun this => ?_
        exact bind (hp.call (.function r) this args).of fun v => pure _
      | _ =>
        refine bind (newObject { proto := some objectPrototype }).of fun this => ?_
        exact bind (hp.call (.function r) this args).of fun v => pure _
  | _ => exact refused

/-! ### All expressions -/

omit hp in
theorem receiver (scope : Scope) : Deals held vs ([·]) (fun m => .ok (m.receiver scope) m : Run σ Value) := by
  refine look fun m closed _ => allWithin_cons.2 ⟨?_, allWithin_nil⟩
  rw [Machine.receiver]
  cases found : scope.findSome? _ with
  | none => trivial
  | some this =>
    obtain ⟨r, -, own⟩ := List.exists_of_findSome?_eq_some found
    have known := (allWithin_append.1 (closed.frame r)).1
    split at own
    · next this' kind =>
      cases own
      rw [kind] at known
      exact known _ List.mem_cons_self
    · cases own

theorem evalExpr (scope : Scope) (e : Expr) : Deals held vs ([·]) (ev.evalExpr scope e) := by
  cases e with
  | hole | null | bool | number | string => exact pure _
  | regex s pattern flags => exact newRegex pattern flags
  | template s quasis es => exact bind (templateText hp scope quasis es) fun _ => pure _
  | place p => exact bind (reference hp scope p) fun r => (read hp scope r).of
  | this s => exact receiver scope
  | array s es => exact bind (values hp scope es) fun vs => (newArray vs).of
  | object s es => exact bind (entries hp scope _ es).of fun o => (newObject o).of
  | function decl => exact closure scope decl
  | unary s op e => exact unary hp scope e op
  | update s op before p => exact update hp scope op before p
  | binary s op l r =>
    exact bind (hp.expr scope l).of fun left => bind (hp.expr scope r).of fun right => binary hp.call left right op
  | logical s op l r =>
    refine bind (hp.expr scope l).of fun left => ?_
    split
    · exact pure _
    · exact (hp.expr scope r).of
  | assign s op p value => exact assign hp scope p value op
  | conditional s test consequent alternate =>
    refine bind (holds hp scope test) fun holds => ?_
    split
    · exact (hp.expr scope consequent).of
    · exact (hp.expr scope alternate).of
  | call s f es =>
    refine bind (callee hp scope f) fun ⟨function, this⟩ => bind (values hp scope es) fun args => ?_
    split
    · exact (hp.call function this args).of
    · exact refuse _
  | construct s f es =>
    refine bind (hp.expr scope f).of fun function => bind (values hp scope es) fun args => ?_
    refine bind (seeNone _) fun constructs => ?_
    split
    · exact (construct hp function args).of
    · exact refuse _
  | sequence s es => exact (sequence hp scope _ es).of

/-! ### Declarations and loops -/

theorem declarators (scope : Scope) (kind : Source.DeclKind) (ds : List Declarator) :
    Deals held vs (fun _ => []) (ev.declarators scope kind ds) := by
  induction ds generalizing vs with
  | nil => exact pure _
  | cons d ds ih =>
    obtain ⟨s, name, value⟩ := d
    cases kind with
    | var =>
      cases value with
      | none => exact bind (declareVariable scope name) fun _ => ih
      | some e => exact bind (hp.expr scope e).of fun v => bind (setName hp.call scope name v).of fun _ => ih
    | _ => exact bind (valueOf hp scope value) fun v => bind (declare scope name v).of fun _ => ih

theorem whileLoop (scope : Scope) (labels : List String) (test : Expr) (b : Stmt) :
    Deals held vs Completion.values (ev.whileLoop scope labels test b) := by
  refine rounds (bind (holds hp scope test) fun holds => ?_) ev.fuel
  split
  · exact bind (hp.stmt scope [] b).of fun _ => pure _
  · exact pure _

theorem doWhile (scope : Scope) (labels : List String) (b : Stmt) (test : Expr) :
    Deals held vs Completion.values (ev.doWhile scope labels b test) := by
  refine rounds (bind (hp.stmt scope [] b).of fun c => ?_) ev.fuel
  have covers (known : List Value) := covers_endsLoop c labels known
  cases ends : c.endsLoop? labels with
  | some c =>
    rw [ends] at covers
    exact pure _
  | none =>
    refine bind (holds hp scope test) fun holds => ?_
    split
    · exact pure _
    · exact pure _

omit hp in
theorem headScope (scope : Scope) (i : Init) : Deals held vs (fun _ => []) (Evaluator.headScope scope i : Run σ Scope) := by
  cases i with
  | declare kind ds =>
    cases kind with
    | var => exact pure _
    | _ => exact (openFrame .block {} scope).of
  | _ => exact pure _

theorem runInit (scope : Scope) (i : Init) : Deals held vs (fun _ => []) (ev.runInit scope i) := by
  cases i with
  | none => exact pure _
  | declare kind ds => exact declarators hp scope kind ds
  | value e => exact bind (hp.expr scope e).of fun _ => pure _

theorem goesOn (scope : Scope) (e : Option Expr) : Deals held vs (fun _ => []) (ev.goesOn scope e) := by
  cases e with
  | none => exact pure _
  | some e => exact holds hp scope e

theorem forLoop (scope : Scope) (labels : List String) (i : Init) (test update : Option Expr) (b : Stmt) :
    Deals held vs Completion.values (ev.forLoop scope labels i test update b) := by
  refine bind (headScope scope i) fun inner => bind (runInit hp inner i) fun _ => ?_
  refine rounds (bind (goesOn hp inner test) fun goesOn => ?_) ev.fuel
  split
  · refine bind (hp.stmt inner [] b).of fun c => ?_
    have covers (known : List Value) := covers_endsLoop c labels known
    cases ends : c.endsLoop? labels with
    | some c =>
      rw [ends] at covers
      exact pure _
    | none => exact bind (valueOf hp inner update) fun _ => pure _
  · exact pure _

theorem receive (scope : Scope) (key : String) (r : Program.Receiver) :
    Deals held vs (fun _ => []) (ev.receive scope key r) := by
  cases r with
  | declare kind name =>
    cases kind with
    | var => exact bind (setName hp.call scope name _).of fun _ => pure _
    | _ => exact (openFrame .block _ scope).of
  | place p => exact bind (reference hp scope p) fun r => bind (write hp scope _ r).of fun _ => pure _

theorem forKeys (scope : Scope) (labels : List String) (r : Program.Receiver) (b : Stmt) (keys : List String) :
    Deals held vs Completion.values (ev.forKeys scope labels r b keys) := by
  induction keys generalizing vs with
  | nil => exact pure _
  | cons key keys ih =>
    refine bind (receive hp scope key r) fun inner => bind (hp.stmt inner [] b).of fun c => ?_
    have covers (known : List Value) := covers_endsLoop c labels known
    cases ends : c.endsLoop? labels with
    | some c =>
      rw [ends] at covers
      exact pure _
    | none => exact ih

theorem forIn (scope : Scope) (labels : List String) (r : Program.Receiver) (e : Expr) (b : Stmt) :
    Deals held vs Completion.values (ev.forIn scope labels r e b) :=
  bind (hp.expr scope e).of fun _ => bind (seeNone _) fun keys => forKeys hp scope labels r b keys

/-! ### Branches and handlers -/

theorem matchingCases (scope : Scope) (v : Value) (cs : List Case) :
    Deals held vs (fun _ => []) (ev.matchingCases scope v cs) := by
  induction cs generalizing vs with
  | nil => exact pure _
  | cons c cs ih =>
    obtain ⟨s, test, b⟩ := c
    cases test with
    | none => exact ih
    | some test =>
      refine bind (hp.expr scope test).of fun w => ?_
      split
      · exact pure _
      · exact ih

theorem runCases (scope : Scope) (cs : List Case) : Deals held vs Completion.values (ev.runCases scope cs) := by
  induction cs generalizing vs with
  | nil => exact pure _
  | cons c cs ih =>
    obtain ⟨s, test, b⟩ := c
    refine bind (body hp scope b) fun c => ?_
    cases c with
    | normal => exact ih
    | broke label => cases label <;> exact pure _
    | returned | continued => exact pure _

theorem switch (scope : Scope) (e : Expr) (cs : List Case) : Deals held vs Completion.values (ev.switch scope e cs) :=
  bind (hp.expr scope e).of fun v => bind (matchingCases hp scope v cs) fun _ => runCases hp scope _

theorem handle (scope : Scope) (e : RuntimeError) (h : Handler) :
    Deals held e.values Completion.values (ev.handle scope e h) := by
  obtain ⟨s, param, b⟩ := h
  refine bind (caughtValue e) fun v => ?_
  cases param with
  | none => exact bind (openFrame .block {} scope).of fun inner => body hp inner b.body
  | some name => exact bind (openFrame .block (({} : Table Value).put name v) scope).of fun inner => body hp inner b.body

theorem guarded (scope : Scope) (b : Block) (h : Option Handler) :
    Deals held vs Completion.values (ev.guarded scope b h) := by
  refine bind (attempt (body hp scope b.body)) fun result => ?_
  cases result with
  | ok c => exact (resume (.ok c)).of
  | error e =>
    cases h with
    | none => exact (resume (.error e)).of
    | some h =>
      dsimp only
      split
      · exact (handle hp scope e h).of
      · exact (failing e).of

theorem tryCatch (scope : Scope) (b : Block) (h : Option Handler) (f : Option Block) :
    Deals held vs Completion.values (ev.tryCatch scope b h f) := by
  cases f with
  | none => exact guarded hp scope b h
  | some f =>
    refine bind (attempt (guarded hp scope b h)) fun result => bind (body hp scope f.body) fun c => ?_
    cases c with
    | normal => exact (resume result).of
    | _ => exact pure _

/-! ### All statements -/

theorem labeled (scope : Scope) (labels : List String) (label : String) (b : Stmt) :
    Deals held vs Completion.values (ev.labeled scope labels label b) := by
  refine bind (hp.stmt scope (label :: labels) b).of fun c => ?_
  match c with
  | .broke (some target) =>
    have plain : (if target = label then Completion.normal else .broke (some target)).values = [] := by split <;> rfl
    have covers (known : List Value) :
        Covers known (if target = label then Completion.normal else .broke (some target)).values := by
      rw [plain]
      infer_instance
    exact pure _
  | .broke none | .normal | .returned _ | .continued _ => exact pure _

theorem withObject (scope : Scope) (e : Expr) (b : Stmt) :
    Deals held vs Completion.values (ev.withObject scope e b) := by
  refine bind (hp.expr scope e).of fun v => ?_
  split
  · exact refuse _
  · exact bind (openFrame (.object v) {} scope).of fun inner => (hp.stmt inner [] b).of

theorem evalStmt (scope : Scope) (labels : List String) (s : Stmt) :
    Deals held vs Completion.values (ev.evalStmt scope labels s) := by
  cases s with
  | expression _ e => exact bind (hp.expr scope e).of fun _ => pure _
  | declare _ kind ds => exact bind (declarators hp scope kind ds) fun _ => pure _
  | function | debugger | empty | breakTo | continueTo => exact pure _
  | returnValue _ e => exact bind (valueOf hp scope e) fun _ => pure _
  | branch _ test consequent alternate =>
    refine bind (holds hp scope test) fun holds => ?_
    split
    · exact (hp.stmt scope [] consequent).of
    · cases alternate with
      | none => exact pure _
      | some s => exact (hp.stmt scope [] s).of
  | block b => exact body hp scope b.body
  | whileLoop _ test b => exact whileLoop hp scope labels test b
  | doWhile _ b test => exact doWhile hp scope labels b test
  | forLoop _ i test update b => exact forLoop hp scope labels i test update b
  | forIn _ r e b => exact forIn hp scope labels r e b
  | labeled _ label b => exact labeled hp scope labels label b
  | switch _ e cs => exact switch hp scope e cs
  | throwValue _ e => exact bind (hp.expr scope e).of fun v => throwing v
  | tryCatch span b h f => exact tryCatch hp scope b h f
  | withObject _ e b => exact withObject hp scope e b

/-! ### Calls -/

omit hp in
theorem enter (f this : Value) (args : List Value) (decl : Func) (scope : Scope) :
    Deals held (f :: this :: args) (fun _ => []) (Run.enter f this args decl scope : Run σ Scope) := by
  unfold Run.enter
  split
  · exact (openFrame .arrow _ scope).of
  · cases decl.name with
    | none => exact bind (newArray args).of fun _ => (openFrame (.function this) _ scope).of
    | some name => exact bind (newArray args).of fun _ => (openFrame (.function this) _ scope).of

theorem runBody (scope : Scope) (decl : Func) : Deals held vs Completion.values (ev.runBody scope decl) := by
  cases decl with
  | mk s name params isArrow b => exact body hp scope b.body
  | lambda s params e => exact (hp.stmt scope [] _).of

theorem callScript (f this : Value) (args : List Value) (decl : Func) (scope : Scope) :
    Deals held (f :: this :: args) ([·]) (ev.callScript f this args decl scope) := by
  refine level (bind (enter f this args decl scope) fun inner => bind (hoist inner _) fun _ => ?_)
  refine bind (runBody hp inner decl) fun c => ?_
  cases c with
  | returned v => exact pure _
  | _ => exact pure _

/-! ### Modules -/

theorem runFactory (params : List String) (program : Program) (this : Value) (args : List Value) :
    Deals held (this :: args) (fun _ => []) (ev.runFactory params program this args) := by
  refine bind (openFrame (.function this) _ globalScope).of fun inner => bind (hoist inner _) fun _ => ?_
  exact bind (body hp inner program.body) fun _ => pure _

omit hp in
theorem exportsOf (r : ObjectRef) : Deals held vs ([·]) (Run.see (Evaluator.exportsOf · r) : Run σ Value) := by
  refine see fun H closed _ => allWithin_cons.2 ⟨?_, allWithin_nil⟩
  rw [Evaluator.exportsOf]
  cases found : (H.object r).get? "exports" with
  | none => trivial
  | some v => exact Object.within_get? (closed.object r) found

theorem runModule (key : String) (factory : Module.Factory) (program : Program) :
    Deals held vs ([·]) (ev.runModule key factory program) := by
  have noted (e : ModuleEvent) {vs : List Value} : Deals held vs (fun _ => []) (Run.note (ev.host.loads e) : Run σ Unit) :=
    note fun s => have := hp.host.loads e s; inferInstance
  refine bind emptyObject fun exports => bind (addObject _).of fun r => bind (still fun _ => ⟨rfl, rfl, rfl⟩) fun _ => ?_
  refine bind (newFunction { name := "require", kind := .native (.require (some key)) }).of fun require => ?_
  refine bind (noted (.started key)) fun _ => ?_
  refine bind (attempt (runFactory hp factory.params program exports [exports, require, .object r]).of) fun result => ?_
  cases result with
  | ok => exact bind (noted (.finished key)) fun _ => exportsOf r
  | error e => exact bind (still fun _ => ⟨rfl, rfl, rfl⟩) fun _ => bind (noted (.failed key)) fun _ => (failing e).of

theorem load (key : String) : Deals held vs ([·]) (ev.load key) := by
  intro m closed known
  rw [Evaluator.load_apply]
  have runs {x : Run σ Value} (hx : Deals held vs ([·]) x) : Dealt held ([·]) m (x m) := hx m closed known
  cases m.loaded.get? key with
  | some r => exact (exportsOf r : Deals held vs ([·]) _) m closed known
  | none =>
    cases m.registry.get? key with
    | none => exact runs (fail rfl)
    | some factory =>
      dsimp only
      cases factory.compile with
      | ok program => exact runs (runModule hp key factory program)
      | error cause => exact runs (fail rfl)

omit hp in
theorem resolve (origin : Option String) (path : String) :
    Deals held vs (fun _ => []) (Run.resolve origin path : Run σ String) := by
  rw [Run.resolve_eq]
  refine bind (lookNone _) fun key? => ?_
  cases key? with
  | some key => exact pure _
  | none => exact fail rfl

theorem require (origin : Option String) (path : String) : Deals held vs ([·]) (ev.require origin path) :=
  bind (resolve origin path) fun key => load hp key

theorem callNative (this : Value) (args : List Value) (n : Native) :
    Deals held (this :: args) ([·]) (ev.callNative this args n) := by
  cases n with
  | builtin b => exact builtin hp.call this args b
  | require origin =>
    match args with
    | .string path :: _ => exact require hp origin path
    | [] | .undefined :: _ | .null :: _ | .bool _ :: _ | .number _ :: _ | .object _ :: _ | .array _ :: _
    | .function _ :: _ | .regex _ :: _ => exact refuse _
  | host f => exact hp.host.call f this args

theorem evalCall (f this : Value) (args : List Value) :
    Deals held (f :: this :: args) ([·]) (ev.evalCall f this args) := by
  cases f with
  | function r =>
    refine bind (seeFunction r) fun ⟨name, kind, properties⟩ => ?_
    cases kind with
    | script decl scope => exact (callScript hp _ this args decl scope).of
    | native n => exact (callNative hp this args n).of
    | bound target receiver more => exact (hp.call _ receiver _).of
  | _ => exact bind (seeNone _) fun _ => refuse _

/-! ### Texts -/

theorem script (last : Value) (ss : List Stmt) : Deals held [last] ([·]) (ev.script last ss) := by
  induction ss generalizing last with
  | nil => exact pure _
  | cons s ss ih =>
    cases s with
    | expression span e =>
      exact bind (hp.host.begins globalScope _).of fun _ => bind (hp.expr globalScope e).of fun v => (ih v).of
    | _ =>
      refine bind (hp.host.begins globalScope _).of fun _ => bind (hp.stmt globalScope [] _).of fun c => ?_
      cases c with
      | normal => exact (ih last).of
      | _ => exact pure _

theorem run (source : String) : Deals held vs ([·]) (ev.run source) := by
  unfold Evaluator.run
  cases Source.compile source with
  | error cause => exact fail rfl
  | ok program => exact bind (hoist globalScope _) fun _ => (script hp _ program.body).of

/-! ### Whatever a host asks for -/

theorem task (t : Task) : Deals held t.values ([·]) (t.run ev) := by
  cases t with
  | eval source => exact run hp source
  | require origin path => exact require hp origin path
  | call f this args => exact hp.call f this args
  | construct f args => exact construct hp f args
  | get v key => exact getProperty hp.call v key
  | set v key new => exact bind (setProperty hp.call v key new) fun _ => pure _

end Parts

end Deals

/-- However deep constructs nest, and whatever a watcher waits for. -/
theorem Host.Deals.evaluators {host : Host σ} (hh : host.Deals held) (waits : Machine σ → Bool) (n : Nat) :
    (Evaluator.watched host waits n).Deals held := by
  induction n with
  | zero => exact ⟨hh, fun _ _ => .outOfFuel, fun _ _ _ => .outOfFuel, fun _ _ _ => .outOfFuel⟩
  | succ n ih =>
    refine ⟨hh, fun scope e => ?_, fun scope labels s => ?_, fun f this args => ?_⟩
    · exact (Machine.Deals.evalExpr ih scope e).watched waits
    · exact (Machine.Deals.evalStmt ih scope labels s).watched waits
    · exact (Machine.Deals.evalCall ih f this args).watched waits

end ScriptCoverage.Machine
