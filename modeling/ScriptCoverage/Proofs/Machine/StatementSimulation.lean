import ScriptCoverage.Proofs.Machine.ExpressionSimulation

/-!
Statements in runs side by side. The heart of it are sequential bodies, where the second run has a probe in
front of every statement (`Same.body`). Main statement: `Same.evalStmt` — if the parts of constructs end in the
same way, so do whole statements.
-/

namespace ScriptCoverage.Machine.Simulation

open Program (Expr Stmt Block Case Handler Declarator Init)

variable {σ σ' : Type} {T : Simulation σ σ'} {ev : Evaluator σ} {ev' : Evaluator σ'}

/-! ### Loops -/

theorem Same.rounds_first (h : T.lead = .first) {round : Run σ (Option Completion)}
    {round' : Run σ' (Option Completion)} (hr : T.Same round round') {n n' : Nat} (hn : n ≤ n') :
    T.Same (Run.rounds round n) (Run.rounds round' n') := by
  induction n generalizing n' with
  | zero => exact .outOfFuel_first h _
  | succ n ih =>
    obtain ⟨k, rfl⟩ : ∃ k, n' = k + 1 := ⟨n' - 1, by omega⟩
    refine Same.bind hr fun c => ?_
    cases c with
    | some c => exact .pure rfl
    | none => exact ih (by omega)

theorem Same.rounds_second (h : T.lead = .second) {round : Run σ (Option Completion)}
    {round' : Run σ' (Option Completion)} (hr : T.Same round round') {n n' : Nat} (hn : n' ≤ n) :
    T.Same (Run.rounds round n) (Run.rounds round' n') := by
  induction n' generalizing n with
  | zero => exact .outOfFuel_second h _
  | succ n' ih =>
    obtain ⟨k, rfl⟩ : ∃ k, n = k + 1 := ⟨n - 1, by omega⟩
    refine Same.bind hr fun c => ?_
    cases c with
    | some c => exact .pure rfl
    | none => exact ih (by omega)

/-- If one round of a loop ends in the same way, so does the loop. -/
theorem Same.loop (hp : T.SideBySide ev ev') {round : Run σ (Option Completion)}
    {round' : Run σ' (Option Completion)} (hr : T.Same round round') : T.Same (ev.loop round) (ev'.loop round') := by
  have fuel := hp.fuel
  cases h : T.lead with
  | first => rw [h] at fuel; exact .rounds_first h hr fuel
  | second => rw [h] at fuel; exact .rounds_second h hr fuel

section Parts

variable (hp : T.SideBySide ev ev') {scope : Scope} (hg : T.Grounded scope)

include hp hg

/-! ### Sequential bodies -/

/-- A statement and the rest of its body, behind what happens when the statement begins. -/
theorem Same.begun {s : Stmt} (hs : s.BindsOnly T.Avoids (T.ranges scope)) {rest : Run σ Completion}
    {rest' : Run σ' Completion} (hr : T.Same rest rest') :
    T.Same (do
      match ← ev.stmt scope [] s with
      | .normal => rest
      | c => return c) (do
      match ← ev'.stmt scope [] (s.mapBodies (T.bodies scope)) with
      | .normal => rest'
      | c => return c) := by
  refine Same.bind (hp.stmt scope [] s hg hs) fun c => ?_
  cases c with
  | normal => exact hr
  | _ => exact .pure rfl

/-- A body without probes. -/
theorem Same.bareBody (hh : T.isHome scope = false) {b : List Stmt}
    (hb : Stmt.BodyBindsOnly T.Avoids (T.ranges scope) b) : T.Same (ev.body scope b) (ev'.body scope b) := by
  induction b with
  | nil => exact .pure _
  | cons s ss ih =>
    obtain ⟨-, hs, hss⟩ := hb
    have rest := Same.begun hp hg hs (ih hss)
    have bare : T.bodies scope = id := by rw [Weave.bodies, hh]; rfl
    rw [bare, Stmt.mapBodies_id] at rest
    exact Same.bind (hp.host.begins scope s hh) fun _ => rest

omit hp hg in
theorem body_cons_silent {s : Stmt} (h : ev.host.begins scope s = pure ()) (ss : List Stmt) :
    ev.body scope (s :: ss) = do
      match ← ev.stmt scope [] s with
      | .normal => ev.body scope ss
      | c => return c := by
  rw [Evaluator.body, h]
  exact pure_bind () _

/-- A body with probes. Each probe does what the host of the first run does when the statement begins. -/
theorem Same.wovenBody (hh : T.isHome scope = true) {b : List Stmt}
    (hb : Stmt.BodyBindsOnly T.Avoids (T.ranges scope) b) :
    T.Same (ev.body scope b) (ev'.body scope (T.probe.weave (b.map (Stmt.mapBodies (T.bodies scope))))) := by
  induction b with
  | nil => exact .pure _
  | cons s ss ih =>
    obtain ⟨fits, hs, hss⟩ := hb
    have rest := Same.begun hp hg hs (ih hss)
    rw [List.map_cons, Probe.weave, Stmt.span_mapBodies, body_cons_silent (hp.host.silent scope _ hh)]
    refine Follows.bind (hp.probed scope s (hg hh) hh (fits hh)) fun _ c hc => ?_
    subst hc
    rw [body_cons_silent (hp.host.silent scope _ hh)]
    exact rest

theorem Same.body {b : List Stmt} (hb : Stmt.BodyBindsOnly T.Avoids (T.ranges scope) b) :
    T.Same (ev.body scope b) (ev'.body scope (Program.bodyMap (T.bodies scope) b)) := by
  rw [Program.bodyMap]
  cases hh : T.isHome scope with
  | true =>
    have woven : T.bodies scope = T.probe.weave := by rw [Weave.bodies, hh]; rfl
    have whole := Same.wovenBody hp hg hh hb
    rw [woven] at whole ⊢
    exact whole
  | false =>
    have bare : T.bodies scope = id := by rw [Weave.bodies, hh]; rfl
    rw [bare, Stmt.map_mapBodies_id]
    exact .bareBody hp hg hh hb

theorem Same.block {b : Block} (hb : b.BindsOnly T.Avoids (T.ranges scope)) :
    T.Same (ev.body scope b.body) (ev'.body scope (b.mapBodies (T.bodies scope)).body) := by
  rw [Block.body_mapBodies]
  exact .body hp hg (Block.bindsOnly_body.2 hb)

/-! ### Declarations -/

theorem Same.declarators (kind : Source.DeclKind) {ds : List Declarator}
    (hds : Declarator.AllBindOnly T.Avoids (T.ranges scope) ds) :
    T.Same (ev.declarators scope kind ds)
      (ev'.declarators scope kind (Declarator.mapBodiesList (T.bodies scope) ds)) := by
  induction ds with
  | nil => exact .pure _
  | cons d ds ih =>
    obtain ⟨s, name, value⟩ := d
    obtain ⟨⟨hn, hv⟩, hds⟩ := hds
    have rest := ih hds
    cases kind with
    | var =>
      cases value with
      | none => exact Same.bind (Same.declareVariable hn scope) fun _ => rest
      | some e =>
        refine Same.bind (hp.expr scope e hg hv) fun v => ?_
        exact Same.bind (.setName hp.call hn scope v) fun _ => rest
    | _ => exact Same.bind (.valueOf hp hg hv) fun v => Same.bind (.declare hn scope v) fun _ => rest

/-! ### Loops with heads -/

theorem Same.whileLoop (labels : List String) {test : Expr} (ht : test.BindsOnly T.Avoids (T.ranges scope))
    {b : Stmt} (hb : b.BindsOnly T.Avoids (T.ranges scope)) :
    T.Same (ev.whileLoop scope labels test b)
      (ev'.whileLoop scope labels (test.mapBodies (T.bodies scope)) (b.mapBodies (T.bodies scope))) := by
  refine Same.loop hp (Same.bind (.holds hp hg ht) fun holds => ?_)
  cases holds with
  | true => exact Same.bind (hp.stmt scope [] b hg hb) fun c => .pure rfl
  | false => exact .pure rfl

theorem Same.doWhile (labels : List String) {test : Expr} (ht : test.BindsOnly T.Avoids (T.ranges scope))
    {b : Stmt} (hb : b.BindsOnly T.Avoids (T.ranges scope)) :
    T.Same (ev.doWhile scope labels b test)
      (ev'.doWhile scope labels (b.mapBodies (T.bodies scope)) (test.mapBodies (T.bodies scope))) := by
  refine Same.loop hp (Same.bind (hp.stmt scope [] b hg hb) fun c => ?_)
  cases c.endsLoop? labels with
  | some c => exact .pure rfl
  | none =>
    refine Same.bind (.holds hp hg ht) fun holds => ?_
    cases holds with
    | true => exact .pure rfl
    | false => exact .pure rfl

omit hp hg in
theorem Follows.headScope (i : Init) :
    T.Follows (fun a b => a = b ∧ T.Inner scope a) (Evaluator.headScope scope i)
      (Evaluator.headScope scope (i.mapBodies (T.bodies scope))) := by
  cases i with
  | declare kind ds =>
    cases kind with
    | var => exact .pure ⟨rfl, .refl scope⟩
    | _ => exact .openFrame .block rfl scope
  | _ => exact .pure ⟨rfl, .refl scope⟩

theorem Same.runInit {i : Init} (hi : i.BindsOnly T.Avoids (T.ranges scope)) :
    T.Same (ev.runInit scope i) (ev'.runInit scope (i.mapBodies (T.bodies scope))) := by
  cases i with
  | none => exact .pure _
  | declare kind ds => exact .declarators hp hg kind hi
  | value e => exact Same.bind (hp.expr scope e hg hi) fun _ => .pure rfl

theorem Same.goesOn {e : Option Expr} (he : Expr.OptionBindsOnly T.Avoids (T.ranges scope) e) :
    T.Same (ev.goesOn scope e) (ev'.goesOn scope (Expr.mapBodiesOption (T.bodies scope) e)) := by
  cases e with
  | none => exact .pure _
  | some e => exact .holds hp hg he

theorem Same.forLoop (labels : List String) {i : Init} (hi : i.BindsOnly T.Avoids (T.ranges scope))
    {test update : Option Expr} (ht : Expr.OptionBindsOnly T.Avoids (T.ranges scope) test)
    (hu : Expr.OptionBindsOnly T.Avoids (T.ranges scope) update) {b : Stmt}
    (hb : b.BindsOnly T.Avoids (T.ranges scope)) :
    T.Same (ev.forLoop scope labels i test update b)
      (ev'.forLoop scope labels (i.mapBodies (T.bodies scope)) (Expr.mapBodiesOption (T.bodies scope) test)
        (Expr.mapBodiesOption (T.bodies scope) update) (b.mapBodies (T.bodies scope))) := by
  refine Follows.bind (Follows.headScope i) fun inner _ h => ?_
  obtain ⟨rfl, inside⟩ := h
  have hg := inside.grounded hg
  rw [← inside.ranges_eq] at hi ht hu hb
  rw [← inside.bodies_eq]
  refine Same.bind (.runInit hp hg hi) fun _ => Same.loop hp (Same.bind (.goesOn hp hg ht) fun goesOn => ?_)
  cases goesOn with
  | false => exact .pure rfl
  | true =>
    refine Same.bind (hp.stmt inner [] b hg hb) fun c => ?_
    cases c.endsLoop? labels with
    | some c => exact .pure rfl
    | none => exact Same.bind (.valueOf hp hg hu) fun _ => .pure rfl

/-! ### Loops over keys -/

theorem Follows.receive (key : String) {r : Program.Receiver} (hr : r.BindsOnly T.Avoids (T.ranges scope)) :
    T.Follows (fun a b => a = b ∧ T.Inner scope a) (ev.receive scope key r)
      (ev'.receive scope key (r.mapBodies (T.bodies scope))) := by
  cases r with
  | declare kind name =>
    cases kind with
    | var => exact Same.bind (.setName hp.call hr scope _) fun _ => .pure ⟨rfl, .refl scope⟩
    | _ => exact .openFrame .block (T.contains_put rfl hr _) scope
  | place p =>
    refine Follows.bind (Follows.target hp hg hr) fun r _ h => ?_
    obtain ⟨rfl, assignable⟩ := h
    exact Same.bind (.write hp _ assignable) fun _ => .pure ⟨rfl, .refl scope⟩

theorem Same.forKeys (labels : List String) {r : Program.Receiver} (hr : r.BindsOnly T.Avoids (T.ranges scope))
    {b : Stmt} (hb : b.BindsOnly T.Avoids (T.ranges scope)) (keys : List String) :
    T.Same (ev.forKeys scope labels r b keys)
      (ev'.forKeys scope labels (r.mapBodies (T.bodies scope)) (b.mapBodies (T.bodies scope)) keys) := by
  induction keys with
  | nil => exact .pure _
  | cons key keys ih =>
    refine Follows.bind (Follows.receive hp hg key hr) fun inner _ h => ?_
    obtain ⟨rfl, inside⟩ := h
    have round := hp.stmt inner [] b (inside.grounded hg) (inside.ranges_eq.symm ▸ hb)
    rw [inside.bodies_eq] at round
    refine Same.bind round fun c => ?_
    cases c.endsLoop? labels with
    | some c => exact .pure rfl
    | none => exact ih

theorem Same.forIn (labels : List String) {r : Program.Receiver} (hr : r.BindsOnly T.Avoids (T.ranges scope))
    {e : Expr} (he : e.BindsOnly T.Avoids (T.ranges scope)) {b : Stmt}
    (hb : b.BindsOnly T.Avoids (T.ranges scope)) :
    T.Same (ev.forIn scope labels r e b)
      (ev'.forIn scope labels (r.mapBodies (T.bodies scope)) (e.mapBodies (T.bodies scope))
        (b.mapBodies (T.bodies scope))) :=
  Same.bind (hp.expr scope e hg he) fun v => Same.bind (.see fun h => T.loopKeys_heap h v) fun keys =>
    Same.forKeys hp hg labels hr hb keys

/-! ### Switches -/

omit hp hg in
theorem defaultCases_mapBodies (f : List Stmt → List Stmt) (cs : List Case) :
    Evaluator.defaultCases (Case.mapBodiesList f cs) = Case.mapBodiesList f (Evaluator.defaultCases cs) := by
  induction cs with
  | nil => rfl
  | cons c cs ih =>
    obtain ⟨s, test, b⟩ := c
    cases test with
    | none => rfl
    | some test => exact ih

omit hp hg in
theorem bindOnly_defaultCases {cs : List Case} (h : Case.AllBindOnly T.Avoids (T.ranges scope) cs) :
    Case.AllBindOnly T.Avoids (T.ranges scope) (Evaluator.defaultCases cs) := by
  induction cs with
  | nil => exact h
  | cons c cs ih =>
    obtain ⟨s, test, b⟩ := c
    cases test with
    | none => exact h
    | some test => exact ih h.2

/-- Both runs find the same clauses. -/
theorem Follows.matchingCases (v : Value) {cs : List Case} (hcs : Case.AllBindOnly T.Avoids (T.ranges scope) cs) :
    T.Follows (fun a b => b = a.map (Case.mapBodiesList (T.bodies scope)) ∧
        ∀ found ∈ a, Case.AllBindOnly T.Avoids (T.ranges scope) found)
      (ev.matchingCases scope v cs) (ev'.matchingCases scope v (Case.mapBodiesList (T.bodies scope) cs)) := by
  induction cs with
  | nil => exact .pure ⟨rfl, nofun⟩
  | cons c cs ih =>
    have rest := ih hcs.2
    obtain ⟨s, test, b⟩ := c
    cases test with
    | none => exact rest
    | some test =>
      refine Same.bind (hp.expr scope test hg hcs.1.1) fun w => ?_
      split
      · refine .pure ⟨rfl, fun found h => ?_⟩
        cases h
        exact hcs
      · exact rest

theorem Same.runCases {cs : List Case} (hcs : Case.AllBindOnly T.Avoids (T.ranges scope) cs) :
    T.Same (ev.runCases scope cs) (ev'.runCases scope (Case.mapBodiesList (T.bodies scope) cs)) := by
  induction cs with
  | nil => exact .pure _
  | cons c cs ih =>
    obtain ⟨s, test, b⟩ := c
    have now := Same.body hp hg hcs.1.2
    rw [Program.bodyMap, ← Stmt.mapBodiesList_eq] at now
    refine Same.bind now fun c => ?_
    cases c with
    | normal => exact ih hcs.2
    | broke label => cases label <;> exact .pure rfl
    | returned | continued => exact .pure rfl

theorem Same.switch {e : Expr} (he : e.BindsOnly T.Avoids (T.ranges scope)) {cs : List Case}
    (hcs : Case.AllBindOnly T.Avoids (T.ranges scope) cs) :
    T.Same (ev.switch scope e cs)
      (ev'.switch scope (e.mapBodies (T.bodies scope)) (Case.mapBodiesList (T.bodies scope) cs)) := by
  refine Same.bind (hp.expr scope e hg he) fun v => ?_
  refine Follows.bind (Follows.matchingCases hp hg v hcs) fun found _ h => ?_
  obtain ⟨rfl, allowed⟩ := h
  cases found with
  | none =>
    have fallback := Same.runCases hp hg (bindOnly_defaultCases hcs)
    rw [← defaultCases_mapBodies] at fallback
    exact fallback
  | some found => exact Same.runCases hp hg (allowed found rfl)

/-! ### Errors -/

theorem Same.handle (e : RuntimeError) {h : Handler} (hh : h.BindsOnly T.Avoids (T.ranges scope)) :
    T.Same (ev.handle scope e h) (ev'.handle scope e (h.mapBodies (T.bodies scope))) := by
  obtain ⟨s, param, b⟩ := h
  refine Same.bind (.caughtValue e) fun v => ?_
  have entered {bindings : Table Value} (hb : bindings.contains T.probe.recorder.name = false) :
      T.Same (do ev.body (← Run.openFrame .block bindings scope) b.body)
        (do ev'.body (← Run.openFrame .block bindings scope) (b.mapBodies (T.bodies scope)).body) := by
    refine Follows.bind (Follows.openFrame .block hb scope) fun inner _ h => ?_
    obtain ⟨rfl, inside⟩ := h
    rw [← inside.bodies_eq]
    exact Same.block hp (inside.grounded hg) (inside.ranges_eq.symm ▸ hh.2)
  cases param with
  | none => exact entered rfl
  | some name => exact entered (T.contains_put rfl (hh.1 name rfl) v)

theorem Same.guarded {b : Block} (hb : b.BindsOnly T.Avoids (T.ranges scope)) {h : Option Handler}
    (hh : Handler.OptionBindsOnly T.Avoids (T.ranges scope) h) :
    T.Same (ev.guarded scope b h)
      (ev'.guarded scope (b.mapBodies (T.bodies scope)) (Handler.mapBodiesOption (T.bodies scope) h)) := by
  refine Same.bind (Same.attempt (.block hp hg hb)) fun result => ?_
  cases h with
  | none => cases result <;> exact Same.resume _
  | some h =>
    cases result with
    | ok c => exact Same.resume _
    | error e =>
      -- a fatal error passes the handler, in both runs
      cases he : e.isCatchable with
      | true =>
        simp only [Handler.mapBodiesOption, he, if_true]
        exact Same.handle hp hg e hh
      | false =>
        simp only [Handler.mapBodiesOption, he]
        exact .fail e

theorem Same.tryCatch {b : Block} (hb : b.BindsOnly T.Avoids (T.ranges scope)) {h : Option Handler}
    (hh : Handler.OptionBindsOnly T.Avoids (T.ranges scope) h) {f : Option Block}
    (hf : Block.OptionBindsOnly T.Avoids (T.ranges scope) f) :
    T.Same (ev.tryCatch scope b h f)
      (ev'.tryCatch scope (b.mapBodies (T.bodies scope)) (Handler.mapBodiesOption (T.bodies scope) h)
        (Block.mapBodiesOption (T.bodies scope) f)) := by
  have guarded := Same.guarded hp hg hb hh
  cases f with
  | none => exact guarded
  | some f =>
    refine Same.bind guarded.attempt fun result => Same.bind (.block hp hg hf) fun c => ?_
    cases c with
    | normal => exact Same.resume result
    | _ => exact .pure rfl

/-! ### All statements -/

theorem Same.labeled (labels : List String) (label : String) {b : Stmt}
    (hb : b.BindsOnly T.Avoids (T.ranges scope)) :
    T.Same (ev.labeled scope labels label b)
      (ev'.labeled scope labels label (b.mapBodies (T.bodies scope))) := by
  refine Same.bind (hp.stmt scope (label :: labels) b hg hb) fun c => ?_
  match c with
  | .broke (some _) | .broke none | .normal | .returned _ | .continued _ => exact .pure rfl

theorem Same.withObject {e : Expr} (he : e.BindsOnly T.Avoids (T.ranges scope)) {b : Stmt}
    (hb : b.BindsOnly T.Avoids (T.ranges scope)) :
    T.Same (ev.withObject scope e b)
      (ev'.withObject scope (e.mapBodies (T.bodies scope)) (b.mapBodies (T.bodies scope))) := by
  refine Same.bind (hp.expr scope e hg he) fun v => ?_
  split
  · exact .refuse _
  · refine Follows.bind (Follows.openFrame (.object v) rfl scope) fun inner _ h => ?_
    obtain ⟨rfl, inside⟩ := h
    rw [← inside.bodies_eq]
    exact hp.stmt inner [] b (inside.grounded hg) (inside.ranges_eq.symm ▸ hb)

theorem Same.evalStmt (labels : List String) {s : Stmt} (hs : s.BindsOnly T.Avoids (T.ranges scope)) :
    T.Same (ev.evalStmt scope labels s) (ev'.evalStmt scope labels (s.mapBodies (T.bodies scope))) := by
  cases s with
  | expression _ e => exact Same.bind (hp.expr scope e hg hs) fun _ => .pure rfl
  | declare _ kind ds => exact Same.bind (.declarators hp hg kind hs) fun _ => .pure rfl
  | function | debugger | empty | breakTo | continueTo => exact .pure _
  | returnValue _ e => exact Same.bind (.valueOf hp hg hs) fun _ => .pure rfl
  | branch _ test consequent alternate =>
    obtain ⟨ht, hc, ha⟩ := hs
    refine Same.bind (.holds hp hg ht) fun holds => ?_
    cases holds with
    | true => exact hp.stmt scope [] consequent hg hc
    | false =>
      cases alternate with
      | none => exact .pure rfl
      | some s => exact hp.stmt scope [] s hg ha
  | block b => exact .block hp hg hs
  | whileLoop _ test b => exact .whileLoop hp hg labels hs.1 hs.2
  | doWhile _ b test => exact .doWhile hp hg labels hs.1 hs.2
  | forLoop _ i test update b => exact .forLoop hp hg labels hs.1 hs.2.1 hs.2.2.1 hs.2.2.2
  | forIn _ r e b => exact .forIn hp hg labels hs.1 hs.2.1 hs.2.2
  | labeled _ label b => exact .labeled hp hg labels label hs
  | switch _ e cs => exact .switch hp hg hs.1 hs.2
  | throwValue _ e => exact Same.bind (hp.expr scope e hg hs) fun v => .fail _
  | tryCatch _ b h f => exact .tryCatch hp hg hs.1 hs.2.1 hs.2.2
  | withObject _ e b => exact .withObject hp hg hs.1 hs.2

end Parts

end ScriptCoverage.Machine.Simulation
