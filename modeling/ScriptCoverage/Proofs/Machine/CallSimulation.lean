import ScriptCoverage.Machine.Evaluate
import ScriptCoverage.Proofs.Machine.StatementSimulation

/-!
Calls and modules in runs side by side. Main statements: `Same.evalCall` — if the parts of constructs end in the
same way, so do calls — and `SideBySide.ofFuel`, by induction: two hosts that do the same make evaluators that
do the same.
-/

namespace ScriptCoverage.Machine.Simulation

open Program (Func Declared)

variable {σ σ' : Type} {T : Simulation σ σ'} {ev : Evaluator σ} {ev' : Evaluator σ'}

/-- A rule may use what is true of sound machines. -/
theorem Follows.given {α β : Type} {V : α → β → Prop} {P : Prop} {x : Run σ α} {y : Run σ' β}
    (h : ∀ m : Machine σ, T.Sound m → P) (k : P → T.Follows V x y) : T.Follows V x y :=
  fun m m' hm => k (h m hm.sound) m m' hm

/-! ### Frames of calls -/

theorem contains_bindParams {ps : List String} (hps : ∀ name ∈ ps, T.Avoids name) {t : Table Value}
    (ht : t.contains T.probe.recorder.name = false) (args : List Value) :
    (bindParams t ps args).contains T.probe.recorder.name = false := by
  induction ps generalizing t args with
  | nil => exact ht
  | cons p ps ih =>
    refine ih (fun name h => hps name (List.mem_cons_of_mem p h)) ?_ _
    exact T.contains_put ht (hps p List.mem_cons_self) _

theorem Follows.enter (f this : Value) (args : List Value) {decl : Func} {scope : Scope}
    (hd : decl.BindsOnly T.Avoids (T.ranges scope)) :
    T.Follows (fun a b => a = b ∧ T.Inner scope a) (Run.enter f this args decl scope)
      (Run.enter f this args (decl.mapBodies (T.bodies scope)) scope) := by
  have params := Func.bindsOnly_params hd
  unfold Run.enter
  rw [Func.isArrow_mapBodies, Func.params_mapBodies, Func.name_mapBodies]
  split
  · exact .openFrame .arrow (contains_bindParams params rfl args) scope
  · refine .given (fun m hm => hm.arguments) fun arguments => Same.bind (.newArray args) fun list => ?_
    refine .openFrame _ (contains_bindParams params (T.contains_put ?_ arguments list) args) scope
    cases hn : decl.name with
    | none => rfl
    | some name => exact T.contains_put rfl (Func.bindsOnly_name hd hn) f

/-! ### Calls of script functions -/

section Calls

variable (hp : T.SideBySide ev ev')

include hp

theorem Same.runBody {scope : Scope} (hg : T.Grounded scope) {decl : Func}
    (hd : decl.BindsOnly T.Avoids (T.ranges scope)) :
    T.Same (ev.runBody scope decl) (ev'.runBody scope (decl.mapBodies (T.bodies scope))) := by
  cases decl with
  | mk s name params isArrow b => exact .block hp hg hd.2.2
  | lambda s params e =>
    have returned := hp.stmt scope [] (.returnValue e.span (some e)) hg hd.2
    rw [Program.Stmt.mapBodies] at returned
    rw [Func.mapBodies, Evaluator.runBody, Evaluator.runBody, Program.Expr.span_mapBodies]
    exact returned

theorem Same.callScript (f this : Value) (args : List Value) {decl : Func} {scope : Scope} (hg : T.Grounded scope)
    (hd : decl.BindsOnly T.Avoids (T.ranges scope)) :
    T.Same (ev.callScript f this args decl scope)
      (ev'.callScript f this args (decl.mapBodies (T.bodies scope)) scope) := by
  refine Follows.get_bind fun m m' hm => ?_
  rw [hm.depth]
  split
  · exact .failed _ hm
  refine Same.deeper (Follows.bind (Follows.enter f this args hd) fun inner _ h => ?_) m m' hm
  obtain ⟨rfl, inside⟩ := h
  have hg := inside.grounded hg
  rw [← inside.ranges_eq] at hd
  rw [← inside.bodies_eq, Declared.ofBody_body_mapBodies (T.inert_bodies inner)]
  refine Same.bind (.hoist hg (Declared.bindsOnly_ofBody_body hd)) fun _ => ?_
  refine Same.bind (.runBody hp hg hd) fun c => ?_
  cases c with
  | returned v => exact .pure rfl
  | _ => exact .pure rfl

/-! ### Modules -/

omit hp in
theorem Same.note {f : σ → σ} {g : σ' → σ'} (h : ∀ s s', T.agree s s' → T.agree (f s) (g s')) :
    T.Same (Run.note f) (Run.note g) :=
  .modified fun _ _ hm => hm.withHost (h _ _ hm.host)

omit hp in
theorem Same.modifyLoaded (f : Table ObjectRef → Table ObjectRef) :
    T.Same (modify fun m => { m with loaded := f m.loaded } : Run σ Unit)
      (modify fun m => { m with loaded := f m.loaded }) := by
  refine .modified fun m m' hm => ?_
  exact
    { toCorresponds := { hm.toCorresponds with loaded := congrArg f hm.loaded }
      sound := { hm.sound with } }

/-- The factory of a module, which has no probes. -/
theorem Same.runFactory {params : List String} (hps : ∀ name ∈ params, T.Avoids name) {program : Program}
    (hb : Program.Stmt.BodyBindsOnly T.Avoids (fun _ => True) program.body) (this : Value) (args : List Value) :
    T.Same (ev.runFactory params program this args) (ev'.runFactory params program this args) := by
  refine .given (fun m hm => hm.isHome_globalScope) fun outside => ?_
  refine Follows.bind (Follows.openFrame _ (contains_bindParams hps rfl args) globalScope) fun inner _ h => ?_
  obtain ⟨rfl, inside⟩ := h
  have bare : T.isHome inner = false := inside.home.trans outside
  have hg : T.Grounded inner := fun home => absurd home (Bool.eq_false_iff.1 bare)
  have any : T.ranges inner = fun _ => True := by
    funext s
    simp [Weave.ranges, bare]
  have same : T.bodies inner = id := by rw [Weave.bodies, bare]; rfl
  rw [← any] at hb
  have hoisted := Same.hoist hg (Declared.bindsOnly_ofBody hb)
  rw [← Declared.ofBody_map (T.inert_bodies inner), same, Program.bodyMap, Program.Stmt.map_mapBodies_id] at hoisted
  exact Same.bind hoisted fun _ => Same.bind (.bareBody hp hg bare hb) fun _ => .pure rfl

theorem Same.runModule (key : String) {factory : Module.Factory} (hf : T.FactorySound factory) {program : Program}
    (h : factory.compile = .ok program) :
    T.Same (ev.runModule key factory program) (ev'.runModule key factory program) := by
  refine Same.bind .emptyObject fun exports => ?_
  refine Same.bind (.add fun _ _ hs hh => by subst hh; exact ⟨rfl, rfl, hs.of_functions_eq rfl⟩) fun r => ?_
  refine Same.bind (.modifyLoaded fun t => t.put key r) fun _ => ?_
  refine Same.bind (.newFunction (f := { name := "require", kind := .native (.require (some key)) }) trivial)
    fun require => ?_
  refine Same.bind (.note (hp.host.loads (.started key))) fun _ => ?_
  refine Same.bind (Same.attempt (.runFactory hp hf.1 (hf.2 program h) _ _)) fun result => ?_
  cases result with
  | ok _ => exact Same.bind (.note (hp.host.loads (.finished key))) fun _ => Same.see fun _ => rfl
  | error e =>
    refine Same.bind (.modifyLoaded fun t => t.erase key) fun _ => ?_
    exact Same.bind (.note (hp.host.loads (.failed key))) fun _ => .fail e

theorem Same.load (key : String) : T.Same (ev.load key) (ev'.load key) := by
  refine Follows.get_bind fun m m' hm => ?_
  rw [hm.loaded, hm.registry]
  cases hr : m.loaded.get? key with
  | some r => exact .ok (by rw [hm.heap]; rfl) hm
  | none =>
    cases hf : m.registry.get? key with
    | none => exact .failed _ hm
    | some factory =>
      dsimp only
      cases hc : factory.compile with
      | ok program => exact Same.runModule hp key (hm.sound.registry key factory hf) hc m m' hm
      | error cause => exact .failed _ hm

omit hp in
theorem Same.resolve (origin : Option String) (path : String) :
    T.Same (Run.resolve origin path) (Run.resolve origin path) := by
  refine Follows.get_bind fun m m' hm => ?_
  rw [hm.registry]
  cases Module.resolve? m.registry.contains origin path with
  | some key => exact .ok rfl hm
  | none => exact .failed _ hm

theorem Same.require (origin : Option String) (path : String) : T.Same (ev.require origin path) (ev'.require origin path) :=
  Same.bind (.resolve origin path) fun key => Same.load hp key

/-! ### All calls -/

theorem Same.callNative (this : Value) (args : List Value) (n : Native) :
    T.Same (ev.callNative this args n) (ev'.callNative this args n) := by
  cases n with
  | builtin b => exact .builtin hp.call this args b
  | require origin =>
    match args with
    | .string path :: _ => exact .require hp origin path
    | [] | .undefined :: _ | .null :: _ | .bool _ :: _ | .number _ :: _ | .object _ :: _ | .array _ :: _
    | .function _ :: _ | .regex _ :: _ => exact Follows.refuse _
  | host f => exact hp.host.call f this args

theorem Same.evalCall (f this : Value) (args : List Value) : T.Same (ev.evalCall f this args) (ev'.evalCall f this args) := by
  cases f with
  | function r =>
    have looked : T.Follows (fun a b => b = T.function a ∧ T.KindSound a.kind) (Run.see (·.function r))
        (Run.see (·.function r)) := by
      intro m m' hm
      refine .ok ⟨?_, hm.sound.function r⟩ hm
      rw [hm.heap]
      exact T.function_heap _ r
    refine Follows.bind looked fun g _ h => ?_
    obtain ⟨rfl, sound⟩ := h
    rw [Weave.function]
    cases hk : g.kind with
    | script decl scope =>
      rw [hk] at sound
      exact Same.callScript hp _ this args sound.1 sound.2
    | native n => exact Same.callNative hp this args n
    | bound target receiver more => exact hp.call _ receiver _
  | _ => exact Same.bind (.see fun h => T.text_heap h _) fun _ => .refuse _

end Calls

/-! ### Whole evaluators -/

theorem host_ofFuel (host : Host σ) (n : Nat) : (Evaluator.ofFuel host n).host = host := by cases n <;> rfl

theorem fuel_ofFuel (host : Host σ) (n : Nat) : (Evaluator.ofFuel host n).fuel = n := by cases n <;> rfl

/-- Hosts that do the same make evaluators that do the same. The second run gets more fuel, as much as its probes
need, if the first one is in the lead. -/
theorem SideBySide.ofFuel {host : Host σ} {host' : Host σ'} (hosts : T.SameHosts host host') (extra : Nat)
    (none : T.lead = .second → extra = 0)
    (probed : ∀ n scope s, globalFrame ∈ scope → T.isHome scope = true → T.fits s.span →
      T.Follows (fun _ c => c = .normal) (host.begins scope s)
        ((Evaluator.ofFuel host' (n + extra)).stmt scope [] (T.probe.lowered s.span)))
    (n : Nat) : T.SideBySide (Evaluator.ofFuel host n) (Evaluator.ofFuel host' (n + extra)) := by
  have fuel (n : Nat) : T.lead.Allots (Evaluator.ofFuel host n).fuel (Evaluator.ofFuel host' (n + extra)).fuel := by
    rw [fuel_ofFuel, fuel_ofFuel]
    cases h : T.lead with
    | first => exact Nat.le_add_right n extra
    | second => exact Nat.le_of_eq (by rw [none h]; rfl)
  have hosts (n : Nat) : T.SameHosts (Evaluator.ofFuel host n).host (Evaluator.ofFuel host' (n + extra)).host := by
    rwa [host_ofFuel, host_ofFuel]
  have probed (n : Nat) := by
    have := probed n
    rwa [← host_ofFuel host n] at this
  induction n with
  | zero =>
    -- without fuel the run in the lead runs out at once, and the other one may do whatever it does
    cases h : T.lead with
    | first =>
      exact ⟨fuel 0, hosts 0, fun _ _ _ _ => .outOfFuel_first h _, fun _ _ _ _ _ => .outOfFuel_first h _,
        fun _ _ _ => .outOfFuel_first h _, probed 0⟩
    | second =>
      obtain rfl := none h
      exact ⟨fuel 0, hosts 0, fun _ _ _ _ => .outOfFuel_second h _, fun _ _ _ _ _ => .outOfFuel_second h _,
        fun _ _ _ => .outOfFuel_second h _, probed 0⟩
  | succ n ih =>
    have eq : n + 1 + extra = (n + extra) + 1 := by omega
    have fuel := fuel (n + 1)
    have hosts := hosts (n + 1)
    have probed := probed (n + 1)
    rw [eq] at fuel hosts probed ⊢
    exact ⟨fuel, hosts, fun scope e hg he => Same.evalExpr ih hg he,
      fun scope labels s hg hs => Same.evalStmt ih hg labels hs, Same.evalCall ih, probed⟩

end ScriptCoverage.Machine.Simulation
