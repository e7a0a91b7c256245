import ScriptCoverage.Proofs.Machine.BuiltinSimulation

/-!
Expressions in runs side by side. `SideBySide` says of two evaluators that the parts of constructs end in the
same way with them, the second one running the parts with their probes. Main statement: `Same.evalExpr` — then
so do whole expressions.
-/

namespace ScriptCoverage.Machine

open Program (Expr Place Entry Stmt)

namespace Simulation

variable {σ σ' : Type} (T : Simulation σ σ')

/-! ### Evaluators -/

/-- Whether two hosts do the same. Where statements have probes, the host of the second run does nothing when
one begins: that is up to the probe. -/
structure SameHosts (host : Host σ) (host' : Host σ') : Prop where
  call : ∀ f this args, T.Same (host.call f this args) (host'.call f this args)
  begins : ∀ scope s, T.isHome scope = false → T.Same (host.begins scope s) (host'.begins scope s)
  silent : ∀ scope s, T.isHome scope = true → host'.begins scope s = pure ()
  loads : ∀ e s s', T.agree s s' → T.agree (host.loads e s) (host'.loads e s')

/-- Whether two evaluators do the same with the parts of constructs, and what the first one's host does when a
statement begins is what the second one does for its probe. -/
structure SideBySide (ev : Evaluator σ) (ev' : Evaluator σ') : Prop where
  fuel : T.lead.Allots ev.fuel ev'.fuel
  host : T.SameHosts ev.host ev'.host
  expr : ∀ scope e, T.Grounded scope → e.BindsOnly T.Avoids (T.ranges scope) →
    T.Same (ev.expr scope e) (ev'.expr scope (e.mapBodies (T.bodies scope)))
  stmt : ∀ scope labels s, T.Grounded scope → s.BindsOnly T.Avoids (T.ranges scope) →
    T.Same (ev.stmt scope labels s) (ev'.stmt scope labels (s.mapBodies (T.bodies scope)))
  call : T.SameCalls ev.call ev'.call
  probed : ∀ scope s, globalFrame ∈ scope → T.isHome scope = true → T.fits s.span →
    T.Follows (fun _ c => c = .normal) (ev.host.begins scope s) (ev'.stmt scope [] (T.probe.lowered s.span))

/-- Whether a place may be written once its parts were evaluated. -/
def Assignable : Evaluator.Reference → Prop
  | .name name => T.Avoids name
  | .property .. => True

variable {T} {ev : Evaluator σ} {ev' : Evaluator σ'}

/-! ### Operators -/

theorem Same.instanceOf {call : Caller σ} {call' : Caller σ'} (hc : T.SameCalls call call') (v constructor : Value) :
    T.Same (Run.instanceOf call v constructor) (Run.instanceOf call' v constructor) := by
  cases constructor with
  | function r =>
    refine Same.bind (.see fun h => by simp) fun r => ?_
    split
    · exact .pure rfl
    · refine Same.bind (.getProperty hc _ _) fun target => ?_
      cases target with
      | object r => exact Same.see fun h => by simp
      | _ => exact Follows.refuse _
  | _ => exact Follows.refuse _

theorem Same.binary {call : Caller σ} {call' : Caller σ'} (hc : T.SameCalls call call') (a b : Value)
    (op : Source.BinaryOp) : T.Same (Run.binary call a b op) (Run.binary call' a b op) := by
  cases op with
  | eqStrict | neStrict => exact .pure _
  | in_ =>
    unfold Run.binary
    dsimp only
    split
    · refine .see fun h => ?_
      simp
    · refine Same.bind (.see fun h => T.text_heap h a) fun _ => ?_
      exact Same.bind (.see fun h => T.text_heap h b) fun _ => .refuse _
  | instanceOf => exact Same.bind (.instanceOf hc a b) fun _ => .pure rfl
  | _ =>
    unfold Run.binary
    refine .see fun h => ?_
    simp

section Parts

variable (hp : T.SideBySide ev ev') {scope : Scope} (hg : T.Grounded scope)

include hp hg

/-! ### Parts of constructs -/

theorem Same.holds {e : Expr} (he : e.BindsOnly T.Avoids (T.ranges scope)) :
    T.Same (ev.holds scope e) (ev'.holds scope (e.mapBodies (T.bodies scope))) :=
  Same.bind (hp.expr scope e hg he) fun _ => .pure rfl

theorem Same.textOf {e : Expr} (he : e.BindsOnly T.Avoids (T.ranges scope)) :
    T.Same (ev.textOf scope e) (ev'.textOf scope (e.mapBodies (T.bodies scope))) :=
  Same.bind (hp.expr scope e hg he) fun v => Same.see fun h => T.text_heap h v

theorem Same.valueOf {e : Option Expr} (he : Expr.OptionBindsOnly T.Avoids (T.ranges scope) e) :
    T.Same (ev.valueOf scope e) (ev'.valueOf scope (Expr.mapBodiesOption (T.bodies scope) e)) := by
  cases e with
  | none => exact .pure _
  | some e => exact hp.expr scope e hg he

theorem Same.values {es : List Expr} (hes : Expr.AllBindOnly T.Avoids (T.ranges scope) es) :
    T.Same (ev.values scope es) (ev'.values scope (Expr.mapBodiesList (T.bodies scope) es)) := by
  induction es with
  | nil => exact .pure _
  | cons e es ih =>
    obtain ⟨he, hes⟩ := hes
    exact Same.bind (hp.expr scope e hg he) fun v => Same.bind (ih hes) fun vs => .pure rfl

theorem Same.sequence (last : Value) {es : List Expr} (hes : Expr.AllBindOnly T.Avoids (T.ranges scope) es) :
    T.Same (ev.sequence scope last es) (ev'.sequence scope last (Expr.mapBodiesList (T.bodies scope) es)) := by
  induction es generalizing last with
  | nil => exact .pure _
  | cons e es ih =>
    obtain ⟨he, hes⟩ := hes
    exact Same.bind (hp.expr scope e hg he) fun v => ih v hes

theorem Same.templateText (quasis : List String) {es : List Expr}
    (hes : Expr.AllBindOnly T.Avoids (T.ranges scope) es) :
    T.Same (ev.templateText scope quasis es)
      (ev'.templateText scope quasis (Expr.mapBodiesList (T.bodies scope) es)) := by
  induction quasis generalizing es with
  | nil => cases es <;> exact .pure _
  | cons q qs ih =>
    cases es with
    | nil => exact .pure _
    | cons e es =>
      obtain ⟨he, hes⟩ := hes
      exact Same.bind (Same.textOf hp hg he) fun text => Same.bind (ih hes) fun rest => .pure rfl

/-! ### Places -/

/-- The parts of a place give the same reference, which may be written if the place may. -/
theorem Follows.reference {p : Place} (parts : p.PartsBindOnly T.Avoids (T.ranges scope)) :
    T.Follows (fun a b => a = b ∧ (p.BindsOnly T.Avoids (T.ranges scope) → T.Assignable a)) (ev.reference scope p)
      (ev'.reference scope (p.mapBodies (T.bodies scope))) := by
  cases p with
  | name s n => exact .pure ⟨rfl, id⟩
  | member s o key => exact Same.bind (hp.expr scope o hg parts) fun v => .pure ⟨rfl, fun _ => trivial⟩
  | index s o key =>
    refine Same.bind (hp.expr scope o hg parts.1) fun v => ?_
    exact Same.bind (.textOf hp hg parts.2) fun text => .pure ⟨rfl, fun _ => trivial⟩

omit hg in
theorem Same.read (r : Evaluator.Reference) : T.Same (ev.read scope r) (ev'.read scope r) := by
  cases r with
  | name n => exact .getName hp.call scope n
  | property v key => exact .getProperty hp.call v key

omit hg in
theorem Same.write (new : Value) {r : Evaluator.Reference} (hr : T.Assignable r) :
    T.Same (ev.write scope new r) (ev'.write scope new r) := by
  cases r with
  | name n => exact .setName hp.call hr scope new
  | property v key => exact .setProperty hp.call v key new

/-- A place that may be written gives a reference that may be. -/
theorem Follows.target {p : Place} (h : p.BindsOnly T.Avoids (T.ranges scope)) :
    T.Follows (fun a b => a = b ∧ T.Assignable a) (ev.reference scope p)
      (ev'.reference scope (p.mapBodies (T.bodies scope))) :=
  (Follows.reference hp hg (Place.partsBindOnly h)).mono fun _ _ hr => ⟨hr.1, hr.2 h⟩

theorem Same.update (op : Source.UpdateOp) (before : Bool) {p : Place} (h : p.BindsOnly T.Avoids (T.ranges scope)) :
    T.Same (ev.update scope op before p) (ev'.update scope op before (p.mapBodies (T.bodies scope))) := by
  refine Follows.bind (Follows.target hp hg h) fun r _ ⟨eq, hr⟩ => ?_
  subst eq
  refine Same.bind (.read hp r) fun v => Same.bind (.see fun h => T.number_heap h v) fun x => ?_
  exact Same.bind (.write hp _ hr) fun _ => .pure rfl

theorem Same.assign {p : Place} (h : p.BindsOnly T.Avoids (T.ranges scope)) {e : Expr}
    (he : e.BindsOnly T.Avoids (T.ranges scope)) (op : Source.AssignOp) :
    T.Same (ev.assign scope p e op)
      (ev'.assign scope (p.mapBodies (T.bodies scope)) (e.mapBodies (T.bodies scope)) op) := by
  refine Follows.bind (Follows.target hp hg h) fun r _ ⟨eq, hr⟩ => ?_
  subst eq
  have store (v : Value) : T.Same (do ev.write scope v r; return v) (do ev'.write scope v r; return v) :=
    Same.bind (.write hp v hr) fun _ => .pure rfl
  cases op with
  | assign => exact Same.bind (hp.expr scope e hg he) store
  | compound op =>
    refine Same.bind (.read hp r) fun old => Same.bind (hp.expr scope e hg he) fun right => ?_
    exact Same.bind (.binary hp.call old right op) store
  | logical op =>
    refine Same.bind (.read hp r) fun old => ?_
    split
    · exact .pure rfl
    · exact Same.bind (hp.expr scope e hg he) store

theorem Same.evalPlace {p : Place} (h : p.PartsBindOnly T.Avoids (T.ranges scope)) :
    T.Same (ev.evalPlace scope p) (ev'.evalPlace scope (p.mapBodies (T.bodies scope))) :=
  Follows.bind (Follows.reference hp hg h) fun r _ hr => hr.1 ▸ Same.read hp r

theorem Same.delete {e : Expr} (he : e.BindsOnly T.Avoids (T.ranges scope)) :
    T.Same (ev.delete scope e) (ev'.delete scope (e.mapBodies (T.bodies scope))) := by
  have evaluated := hp.expr scope e hg he
  cases e with
  | place p =>
    cases p with
    | name => exact Same.bind evaluated fun _ => .pure rfl
    | member | index =>
      refine Follows.bind (Follows.reference hp hg he) fun r _ hr => ?_
      obtain ⟨rfl, -⟩ := hr
      cases r with
      | name => exact .pure rfl
      | property v key => exact Same.deleteProperty v key
  | _ => exact Same.bind evaluated fun _ => .pure rfl

/-! ### Unary operators -/

theorem Same.typeOf {e : Expr} (he : e.BindsOnly T.Avoids (T.ranges scope)) :
    T.Same (ev.typeOf scope e) (ev'.typeOf scope (e.mapBodies (T.bodies scope))) := by
  refine Follows.get_bind fun m m' hm => ?_
  have unbound : Evaluator.isUnboundName m' scope (e.mapBodies (T.bodies scope)) =
      Evaluator.isUnboundName m scope e := by
    cases e with
    | place p =>
      cases p with
      | name s n => exact congrArg Option.isNone (hm.resolve?_eq scope n)
      | _ => rfl
    | _ => rfl
  have typed : T.Same (do return (← ev.expr scope e).typeName)
      (do return (← ev'.expr scope (e.mapBodies (T.bodies scope))).typeName) :=
    Same.bind (hp.expr scope e hg he) fun v => .pure rfl
  rw [unbound]
  split
  · exact .ok rfl hm
  · exact typed m m' hm

theorem Same.unary {e : Expr} (he : e.BindsOnly T.Avoids (T.ranges scope)) (op : Source.UnaryOp) :
    T.Same (ev.unary scope e op) (ev'.unary scope (e.mapBodies (T.bodies scope)) op) := by
  have evaluated := hp.expr scope e hg he
  cases op with
  | typeOf => exact Same.bind (.typeOf hp hg he) fun _ => .pure rfl
  | delete => exact Same.bind (.delete hp hg he) fun _ => .pure rfl
  | not => exact Same.bind (.holds hp hg he) fun _ => .pure rfl
  | neg | plus | bitNot => exact Same.bind evaluated fun v => Same.see fun h => by simp
  | void => exact Same.bind evaluated fun _ => .pure rfl

/-! ### Literals -/

theorem Same.keyText {k : Program.Key} (hk : k.BindsOnly T.Avoids (T.ranges scope)) :
    T.Same (ev.keyText scope k) (ev'.keyText scope (k.mapBodies (T.bodies scope))) := by
  cases k with
  | fixed text => exact .pure _
  | computed e => exact .textOf hp hg hk

theorem Same.entries (o : Object) {es : List Entry} (hes : Entry.AllBindOnly T.Avoids (T.ranges scope) es) :
    T.Same (ev.entries scope o es) (ev'.entries scope o (Entry.mapBodiesList (T.bodies scope) es)) := by
  induction es generalizing o with
  | nil => exact .pure _
  | cons e es ih =>
    obtain ⟨kind, key, value⟩ := e
    obtain ⟨⟨hk, hv⟩, hes⟩ := hes
    exact Same.bind (.keyText hp hg hk) fun key => Same.bind (hp.expr scope value hg hv) fun v => ih _ hes

/-! ### Calls -/

theorem Same.callee {e : Expr} (he : e.BindsOnly T.Avoids (T.ranges scope)) :
    T.Same (ev.callee scope e) (ev'.callee scope (e.mapBodies (T.bodies scope))) := by
  have evaluated := hp.expr scope e hg he
  cases e with
  | place p =>
    cases p with
    | name => exact Same.bind evaluated fun _ => .pure rfl
    | member s o key =>
      exact Same.bind (hp.expr scope o hg he) fun v => Same.bind (.getProperty hp.call v key) fun _ => .pure rfl
    | index s o key =>
      refine Same.bind (hp.expr scope o hg he.1) fun v => Same.bind (.textOf hp hg he.2) fun text => ?_
      exact Same.bind (.getProperty hp.call v text) fun _ => .pure rfl
  | _ => exact Same.bind evaluated fun _ => .pure rfl

omit hg in
theorem Same.construct (callee : Value) (args : List Value) :
    T.Same (ev.construct callee args) (ev'.construct callee args) := by
  have refused : T.Same (do Run.refuse (.notConstructor (← Run.see (σ := σ) (·.text callee))) : Run σ Value)
      (do Run.refuse (.notConstructor (← Run.see (·.text callee)))) :=
    Same.bind (.see fun h => T.text_heap h callee) fun _ => .refuse _
  cases callee with
  | function r =>
    refine Same.bind (.see fun h => T.isConstructor_heap h r) fun constructs => ?_
    cases constructs with
    | false => exact refused
    | true =>
      refine Same.bind (.see fun h => T.unbound_heap h r args) fun ⟨r, args⟩ => ?_
      refine Same.bind (.getProperty hp.call _ _) fun proto => ?_
      refine Same.bind (.newObject _) fun this => Same.bind (hp.call _ this args) fun result => .pure rfl
  | _ => exact refused

/-! ### All expressions -/

theorem Same.evalExpr {e : Expr} (he : e.BindsOnly T.Avoids (T.ranges scope)) :
    T.Same (ev.evalExpr scope e) (ev'.evalExpr scope (e.mapBodies (T.bodies scope))) := by
  cases e with
  | hole | null | bool | number | string => exact .pure _
  | regex s pattern flags => exact .newRegex pattern flags
  | template s quasis es => exact Same.bind (.templateText hp hg quasis he) fun _ => .pure rfl
  | place p => exact .evalPlace hp hg he
  | this s =>
    refine Follows.get_bind fun m m' hm => .ok ?_ hm
    exact (hm.receiver_eq scope).symm
  | array s es => exact Same.bind (.values hp hg he) fun vs => Same.newArray vs
  | object s es => exact Same.bind (.entries hp hg _ he) fun o => Same.newObject o
  | function decl => exact .closure hg he
  | unary s op e => exact .unary (e := e) hp hg he op
  | update s op before p => exact .update hp hg op before he
  | binary s op l r =>
    refine Same.bind (hp.expr scope l hg he.1) fun left => Same.bind (hp.expr scope r hg he.2) fun right => ?_
    exact Same.binary hp.call left right op
  | logical s op l r =>
    refine Same.bind (hp.expr scope l hg he.1) fun left => ?_
    split
    · exact .pure rfl
    · exact hp.expr scope r hg he.2
  | assign s op p value => exact .assign hp hg he.1 he.2 op
  | conditional s test consequent alternate =>
    refine Same.bind (.holds hp hg he.1) fun holds => ?_
    split
    · exact hp.expr scope consequent hg he.2.1
    · exact hp.expr scope alternate hg he.2.2
  | call s f es =>
    refine Same.bind (.callee hp hg he.1) fun ⟨function, this⟩ => Same.bind (.values hp hg he.2) fun args => ?_
    rw [describe_mapBodies]
    split
    · exact hp.call function this args
    · exact .refuse _
  | construct s f es =>
    refine Same.bind (hp.expr scope f hg he.1) fun function => Same.bind (.values hp hg he.2) fun args => ?_
    refine Same.bind (.see fun h => ?_) fun constructs => ?_
    · cases function with
      | function r => exact T.isConstructor_heap h r
      | _ => rfl
    · rw [describe_mapBodies]
      split
      · exact Same.construct hp function args
      · exact .refuse _
  | sequence s es => exact .sequence hp hg _ he

end Parts

end Simulation

end ScriptCoverage.Machine
