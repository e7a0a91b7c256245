import ScriptCoverage.Proofs.Machine.ProbeRun

/-!
Runs of a module, with and without probes in it. `Ready` says that a machine is fit for them: the recorder is
bound, and no code takes its name away. Main statement: `Matches.runFactory` — started on such a machine, a
module with probes ends in the same way as the module itself.
-/

namespace ScriptCoverage.Machine

variable {σ σ' : Type}

/-- Whether a machine is fit for runs of modules with probes of a session: the name of the recorder is bound in
the global frame, to the recorder, and in no other one, no code binds or assigns it, and the scopes of functions
consist of frames. -/
structure Ready (p : Probe) (session : Nat) (m : Machine σ) : Prop where
  arguments : p.recorder.name ≠ "arguments"
  ground : ∀ v, (m.frame globalFrame).kind ≠ .object v
  bound : ∃ (r : FunctionRef) (f : Function), m.binding? globalFrame p.recorder.name = some (.function r) ∧
    m.heap.functions[r.index]? = some f ∧ f.kind = .native (.host (.recorder session))
  elsewhere : ∀ r, r ≠ globalFrame → m.isBound r p.recorder.name = false
  functions : ∀ (i : Nat) (f : Function) decl scope, m.heap.functions[i]? = some f → f.kind = .script decl scope →
    decl.BindsOnly (· ≠ p.recorder.name) (fun _ => True) ∧ ∀ r ∈ scope, r.index < m.frames.size
  registry : ∀ key f, m.registry.get? key = some f → (∀ name ∈ f.params, name ≠ p.recorder.name) ∧
    ∀ program, f.compile = .ok program →
      Program.Stmt.BodyBindsOnly (· ≠ p.recorder.name) (fun _ => True) program.body

theorem Ready.withHost {p : Probe} {session : Nat} {m : Machine σ} (h : m.Ready p session) (s : σ') :
    (m.withHost s).Ready p session := { h with }

namespace Weave

variable {S : Weave} {m : Machine σ}

theorem ranges_of_not_home {scope : Scope} (h : S.isHome scope = false) : S.ranges scope = fun _ => True := by
  funext s
  simp [ranges, h]

theorem ranges_of_home {scope : Scope} (h : S.isHome scope = true) : S.ranges scope = S.fits := by
  funext s
  simp [ranges, h]

theorem isHome_of_none (h : S.home = none) (scope : Scope) : S.isHome scope = false := by simp [isHome, h]

/-- No function of a machine has code in a frame that is not there yet. -/
theorem not_home_of_lt (home : S.home = some ⟨m.frames.size⟩) {scope : Scope}
    (h : ∀ r ∈ scope, r.index < m.frames.size) : S.isHome scope = false := by
  simp only [isHome, home, Option.any_some]
  refine Bool.eq_false_iff.2 fun hc => ?_
  exact Nat.lt_irrefl _ (h _ (List.contains_iff_mem.1 hc))

theorem bodies_of_not_home {scope : Scope} (h : S.isHome scope = false) : S.bodies scope = id := by
  rw [bodies, h]
  rfl

/-- Code that is nowhere at home is its own image. -/
theorem heap_eq_self {h : Heap}
    (bare : ∀ (i : Nat) (f : Function) decl scope, h.functions[i]? = some f → f.kind = .script decl scope →
      S.isHome scope = false) : S.heap h = h := by
  have functions : h.functions.map S.function = h.functions := by
    refine Array.ext (by simp) fun i hi hi' => ?_
    rw [Array.getElem_map]
    have found : h.functions[i]? = some h.functions[i] := Array.getElem?_eq_getElem hi'
    have kind : S.kind h.functions[i].kind = h.functions[i].kind := by
      cases hk : h.functions[i].kind with
      | script decl scope =>
        rw [Weave.kind, bodies_of_not_home (bare i _ decl scope found hk), Program.Func.mapBodies_id]
      | _ => rfl
    rw [Weave.function, kind]
  rw [Weave.heap, functions]

end Weave

namespace Ready

variable {m : Machine σ} {S : Weave} (h : m.Ready S.probe S.session)

include h

/-- Without probes a machine that is ready is sound. -/
theorem sound (home : S.home = none) : S.Sound m where
  home r hr := by rw [home] at hr; cases hr
  arguments := Ne.symm h.arguments
  ground := h.ground
  bound := h.bound
  elsewhere := h.elsewhere
  functions i f hf := by
    have bare := S.isHome_of_none home
    cases hk : f.kind with
    | script decl scope =>
      refine ⟨fun home => absurd home (Bool.eq_false_iff.1 (bare scope)), ?_⟩
      rw [Weave.ranges_of_not_home (bare scope)]
      exact (h.functions i f decl scope hf hk).1
    | _ => trivial
  registry := h.registry

/-- With probes in the code of a module, it is so when the frame of the module has been opened. -/
theorem opened (home : S.home = some ⟨m.frames.size⟩) (kind : FrameKind) {bindings : Table Value}
    (hb : bindings.contains S.probe.recorder.name = false) (scope : Scope) :
    S.Sound (m.openFrame kind bindings scope).2 := by
  have before : ({ S with home := none } : Weave).Sound m := Ready.sound (S := { S with home := none }) h rfl
  have after := before.openFrame kind hb scope
  refine ⟨fun r hr => ?_, after.arguments, after.ground, after.bound, after.elsewhere, fun i f hf => ?_, after.registry⟩
  · rw [home] at hr
    cases hr
    refine ⟨fun ground => Nat.ne_of_gt before.frames_pos (congrArg FrameRef.index ground), ?_⟩
    rw [Machine.openFrame, Array.size_push]
    exact Nat.lt_succ_self _
  · cases hk : f.kind with
    | script decl scope' =>
      obtain ⟨allowed, older⟩ := h.functions i f decl scope' hf hk
      have bare := Weave.not_home_of_lt home older
      refine ⟨fun home => absurd home (Bool.eq_false_iff.1 bare), ?_⟩
      rw [Weave.ranges_of_not_home bare]
      exact allowed
    | _ => trivial

end Ready

namespace Simulation

variable {T : Simulation σ σ'} {m : Machine σ} {h : σ'} (ready : m.Ready T.probe T.session) (agree : T.agree m.host h)

include ready agree

/-- Two machines without probes that differ in their hosts only. -/
theorem Related.ofReady (home : T.home = none) : T.Related m (m.withHost h) where
  heap := (T.heap_eq_self fun _ _ _ scope _ _ => T.isHome_of_none home scope).symm
  frames := rfl
  registry := rfl
  loaded := rfl
  depth := rfl
  console := rfl
  host := agree
  sound := ready.sound home

/-- A module with probes ends in the same way as the module itself. -/
theorem Matches.runFactory (home : T.home = some ⟨m.frames.size⟩) {ev : Evaluator σ} {ev' : Evaluator σ'}
    (hp : T.SideBySide ev ev') {params : List String} (hps : ∀ name ∈ params, T.Avoids name) {program : Program}
    (hb : Program.Stmt.BodyBindsOnly T.Avoids T.fits program.body) (this : Value) (args : List Value) :
    T.Matches Eq (ev.runFactory params program this args m)
      (ev'.runFactory params (program.mapBodies T.probe.weave) this args (m.withHost h)) := by
  have free := contains_bindParams hps (rfl : ({} : Table Value).contains T.probe.recorder.name = false) args
  let opened := m.openFrame (.function this) (bindParams {} params args) globalScope
  -- The frame of the module is the first one with probes, so up to here the two machines have the same code.
  have related : T.Related opened.2 (opened.2.withHost h) := by
    refine ⟨⟨?_, rfl, rfl, rfl, rfl, rfl, agree⟩, ready.opened home _ free globalScope⟩
    refine (T.heap_eq_self fun i f decl scope hf hk => ?_).symm
    exact Weave.not_home_of_lt home (ready.functions i f decl scope hf hk).2
  have inside : T.isHome opened.1 = true := by simp [opened, Weave.isHome, home, Machine.openFrame]
  have grounded : T.Grounded opened.1 := fun _ => List.mem_cons_of_mem _ List.mem_cons_self
  have woven : T.bodies opened.1 = T.probe.weave := by rw [Weave.bodies, inside]; rfl
  rw [← Weave.ranges_of_home inside] at hb
  have hoisted := Same.hoist grounded (Program.Declared.bindsOnly_ofBody hb)
  rw [← Program.Declared.ofBody_map (T.inert_bodies opened.1)] at hoisted
  have rest : T.Same (do
      Run.hoist opened.1 (Program.Declared.ofBody program.body)
      let _ ← ev.body opened.1 program.body) (do
      Run.hoist opened.1 (Program.Declared.ofBody (Program.bodyMap (T.bodies opened.1) program.body))
      let _ ← ev'.body opened.1 (Program.bodyMap (T.bodies opened.1) program.body)) :=
    Same.bind hoisted fun _ => Same.bind (.body hp grounded hb) fun _ => .pure rfl
  rw [woven] at rest
  exact rest _ _ related

end Simulation

end ScriptCoverage.Machine
