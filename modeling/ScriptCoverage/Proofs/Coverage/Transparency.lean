import ScriptCoverage.Coverage.Session
import ScriptCoverage.Machine.Initial
import ScriptCoverage.Proofs.Coverage.Recording
import ScriptCoverage.Proofs.Machine.Outcome

/-!
Probes do not change what a module does. Main statement: `transparent` — a module and the module with probes,
run from the same machine, diverge both or end in the same way, on machines that differ in the bodies of the
module's functions and in what the session counted.
-/

namespace ScriptCoverage

open Machine

variable {σ τ : Type}

namespace Session

/-- A new function of the host has its own place, and its name is bound in the global frame. -/
theorem bindHostFunction_eq (m : Machine σ) (name : String) (f : HostFunction) :
    bindHostFunction m name f =
      { m with
        heap := { m.heap with functions := m.heap.functions.push { name, kind := .native (.host f) } }
        frames := (m.bind globalFrame name (.function ⟨m.heap.functions.size⟩)).frames } := rfl

theorem frame_bindHostFunction (m : Machine σ) (name : String) (f : HostFunction) (r : FrameRef) :
    (bindHostFunction m name f).frame r =
      (m.modifyBindings globalFrame (·.put name (.function ⟨m.heap.functions.size⟩))).frame r := rfl

/-- Binding the name of a recorder makes a machine ready if nothing had the name before. -/
theorem ready_bindHostFunction {p : Probe} (session : Nat) {m : Machine σ}
    (arguments : p.recorder.name ≠ "arguments") (global : 0 < m.frames.size)
    (ground : ∀ v, (m.frame globalFrame).kind ≠ .object v) (fresh : ∀ r, m.isBound r p.recorder.name = false)
    (functions : ∀ (i : Nat) (f : Function) decl scope, m.heap.functions[i]? = some f → f.kind = .script decl scope →
      decl.BindsOnly (· ≠ p.recorder.name) (fun _ => True) ∧ ∀ r ∈ scope, r.index < m.frames.size)
    (registry : ∀ key f, m.registry.get? key = some f → (∀ name ∈ f.params, name ≠ p.recorder.name) ∧
      ∀ program, f.compile = .ok program →
        Program.Stmt.BodyBindsOnly (· ≠ p.recorder.name) (fun _ => True) program.body) :
    (bindHostFunction m p.recorder.name (.recorder session)).Ready p session where
  arguments := arguments
  ground v := by
    rw [frame_bindHostFunction, Machine.kind_modifyBindings]
    exact ground v
  bound := by
    refine ⟨⟨m.heap.functions.size⟩, _, ?_, Array.getElem?_push_size, rfl⟩
    rw [Machine.binding?, frame_bindHostFunction, Machine.frame_modifyBindings, if_pos ⟨rfl, global⟩, Table.get?_put,
      if_pos rfl]
  elsewhere r hr := by
    rw [Machine.isBound, frame_bindHostFunction, Machine.frame_modifyBindings, if_neg fun h => hr h.1.symm]
    exact fresh r
  functions i f decl scope hf hk := by
    rw [bindHostFunction_eq, Machine.bind, Machine.modifyBindings, Array.size_modify]
    refine functions i f decl scope ?_ hk
    rw [bindHostFunction_eq, Array.getElem?_push] at hf
    split at hf
    · cases hf
      cases hk
    · exact hf
  registry := registry

end Session

/-! ### A script for examples -/

namespace NestedEmpty

/-- The script `{ ; }`. -/
def script : Source.Script := ⟨⟨0, 5⟩, none, [.block (.mk ⟨0, 5⟩ [.empty ⟨2, 3⟩])]⟩

def program : Program := ⟨⟨0, 5⟩, [.block (.mk ⟨0, 5⟩ [.empty ⟨2, 3⟩])]⟩

def probe : Probe := ⟨⟨"cov", by decide⟩, "m"⟩

/-- A machine with nothing but the recorder of a session. -/
def machine : Machine (Ledger Unit) :=
  Session.bindHostFunction (Machine.bare ⟨#[({} : Table Record).put "m" (.ofScript "m" "c" "{ ; }" script)], ()⟩) "cov"
    (.recorder 0)

/-- A host whose functions do nothing. -/
def host : Host (Ledger Unit) := { call := fun _ _ _ => return .undefined }

theorem blind : host.Blind := ⟨fun _ _ _ _ _ => .pure _, fun _ _ => rfl, fun _ _ _ _ _ agree => agree⟩

theorem ready : machine.Ready probe 0 := by
  refine Session.ready_bindHostFunction 0 (by decide) (by decide) nofun (fun r => ?_) nofun nofun
  obtain ⟨i⟩ := r
  cases i <;> rfl

theorem lowers : script.lower = .ok program := rfl

theorem binds {ranges : Span → Prop} (outer : ranges ⟨0, 5⟩) (inner : ranges ⟨2, 3⟩) :
    Program.Stmt.BodyBindsOnly (· ≠ probe.recorder.name) ranges program.body :=
  ⟨outer, ⟨inner, trivial, trivial⟩, trivial⟩

theorem params_avoid : ∀ name ∈ ([] : List String), name ≠ probe.recorder.name := nofun

theorem free (n : Nat) (m : Machine (Ledger Unit)) :
    moduleRun ((Recorder.host host).guarded probe.recorder.name) [] program .undefined [] machine n ≠
      .error .stopped m := by
  match n with
  | 0 | 1 | n + 2 => exact nofun

end NestedEmpty

/-! ### Modules with probes -/

/-- Whether both ends of a range are machine words. -/
def Span.InWords (s : Span) : Prop := s.start < 2 ^ 64 ∧ s.stop < 2 ^ 64

namespace Probe

/-- The code of a module that is run on a machine: the frame of the module is the next one. -/
def weaveFrom (p : Probe) (session : Nat) (m : Machine σ) (fits : Span → Prop) : Weave where
  probe := p
  session
  home := some ⟨m.frames.size⟩
  fits

/-- A module that is run beside itself on another host. -/
def beside {σ' : Type} (p : Probe) (session : Nat) (agree : σ → σ' → Prop) : Simulation σ σ' where
  probe := p
  session
  home := none
  fits := Span.InWords
  agree
  lead := .first

/-- A module with probes that is run beside itself without. -/
def besideWoven (p : Probe) (session : Nat) (m : Machine (Ledger τ)) : Simulation (Ledger τ) (Ledger τ) where
  toWeave := p.weaveFrom session m Span.InWords
  agree := Recorder.Counted session p.key
  lead := .first

variable {other : Host (Ledger τ)} (blind : other.Blind) {p : Probe} {session : Nat} {m : Machine (Ledger τ)}

include blind

theorem sameHosts_beside (lead : Lead) :
    ((p.beside session Eq).led lead).SameHosts (Recorder.host other) (Recorder.host other) :=
  .recorder (T := (p.beside session Eq).led lead) blind overTables_eq Recorder.respects_eq

/-- A probe does what the host does when a statement begins: nothing that a script could see. -/
theorem probed_woven (lead : Lead) (n : Nat) (scope : Scope) (s : Program.Stmt) (enough : lead = .first → 3 ≤ n)
    (hg : globalFrame ∈ scope) (fits : s.span.InWords) :
    ((p.besideWoven session m).led lead).Follows (fun _ c => c = .normal)
      (((Recorder.host other).guarded p.recorder.name).begins scope s)
      ((Evaluator.ofFuel (Recorder.host other) n).stmt scope [] (p.lowered s.span)) := by
  refine Simulation.Follows.probed (T := (p.besideWoven session m).led lead) hg (fun m captured => ?_)
    (fun m m' hm free => ?_) enough
  · exact congrFun (if_pos captured) m
  · have begins : ((Recorder.host other).guarded p.recorder.name).begins scope s m = .ok () m :=
      (congrFun (if_neg (Bool.eq_false_iff.1 free)) m).trans (congrFun (blind.begins scope s) m)
    obtain ⟨k, t, called, counted⟩ := Recorder.Counted.probe hm.host fits.1 fits.2
    rw [begins]
    change Simulation.Matches _ _ _ (Recorder.call session (p.arguments s.span) m')
    rw [Recorder.call_of_ok called]
    exact .ok trivial (hm.withHost counted)

/-- Probes are transparent. A module and the module with probes diverge both, or they end with the same result or
error, with the same lines logged and everything else equal up to probes in closures of the module and up to the
counts of the session. -/
theorem transparent (ready : m.Ready p session) (listed : (Recorder.table m.host session).contains p.key)
    {t : Source.Script} {program : Program} (lowers : t.lower = .ok program)
    (binds : Program.Stmt.BodyBindsOnly (· ≠ p.recorder.name) Span.InWords program.body) {params : List String}
    (hps : ∀ name ∈ params, name ≠ p.recorder.name) (this : Value) (args : List Value)
    (free : ∀ n m', moduleRun ((Recorder.host other).guarded p.recorder.name) params program this args m n ≠
      .error .stopped m') :
    ∃ woven, (p.insert t).lower = .ok woven ∧
      (Diverges (moduleRun (Recorder.host other) params program this args m) ∧
        Diverges (moduleRun (Recorder.host other) params woven this args m) ∨
      ∃ r r', Ends (moduleRun (Recorder.host other) params program this args m) r ∧
        Ends (moduleRun (Recorder.host other) params woven this args m) r' ∧
        (p.weaveFrom session m Span.InWords).SameEnd (Recorder.Counted session p.key) r r') := by
  refine ⟨program.mapBodies p.weave, by rw [lower_insert, lowers]; rfl, ?_⟩
  have plain := Program.Stmt.bodyBindsOnly_mono (fun _ _ => trivial) binds
  have woven : Program.Stmt.BodyBindsOnly (· ≠ p.recorder.name) (fun _ => True) (program.mapBodies p.weave).body :=
    Program.Stmt.bodyBindsOnly_bodyMap (fun _ _ => trivial) p.bodyBindsOnly_weave binds
  have same (lead : Lead) : ((p.beside session Eq).led lead).SameHosts (Recorder.host other) (Recorder.host other) :=
    sameHosts_beside blind lead
  -- both runs are compared with the one that is stopped where the recorder is captured, which never is
  have erased : (p.beside session Eq).Tracks
      (moduleRun ((Recorder.host other).guarded p.recorder.name) params program this args m)
      (moduleRun (Recorder.host other) params program this args m) :=
    .bare (T := p.beside session Eq) ready rfl (fun lead => (same lead).guarded _) hps this args rfl plain free
  have probed : (p.besideWoven session m).Tracks
      (moduleRun ((Recorder.host other).guarded p.recorder.name) params program this args m)
      (moduleRun (Recorder.host other) params (program.mapBodies p.weave) this args m) := by
    refine .woven (T := p.besideWoven session m) ready ⟨rfl, listed⟩ (fun lead => ?_) hps this args rfl
      (fun lead n scope s enough hg _ fits => probed_woven blind lead n scope s enough hg fits) binds free
    exact (Simulation.SameHosts.recorder (T := (p.besideWoven session m).led lead) blind
      (overTables_counted session p.key) (Recorder.Counted.respects session p.key)).guarded _
  have settled {program : Program}
      (hb : Program.Stmt.BodyBindsOnly (· ≠ p.recorder.name) (fun _ => True) program.body) :=
    Simulation.moduleRun_settled (T := p.beside session Eq) rfl rfl ready same hps hb this args
  refine (erased.both probed (settled plain) (settled woven)).imp id ?_
  rintro ⟨r, r₁, r₂, ends₁, ends₂, same₁, same₂⟩
  obtain rfl := same₁.eq rfl
  exact ⟨r₁, r₂, ends₁, ends₂, same₂⟩

omit blind in
/-- It is so for the script `{ ; }`, whose runs end. -/
theorem transparent_nested_empty : ∃ woven, (NestedEmpty.probe.insert NestedEmpty.script).lower = .ok woven ∧
    ∃ r r', Ends (moduleRun (Recorder.host NestedEmpty.host) [] NestedEmpty.program .undefined [] NestedEmpty.machine) r ∧
      Ends (moduleRun (Recorder.host NestedEmpty.host) [] woven .undefined [] NestedEmpty.machine) r' ∧
      (NestedEmpty.probe.weaveFrom 0 NestedEmpty.machine Span.InWords).SameEnd (Recorder.Counted 0 "m") r r' := by
  obtain ⟨woven, lowers, both⟩ := transparent NestedEmpty.blind NestedEmpty.ready rfl NestedEmpty.lowers
    (NestedEmpty.binds ⟨by decide, by decide⟩ ⟨by decide, by decide⟩) NestedEmpty.params_avoid .undefined []
    NestedEmpty.free
  refine ⟨woven, lowers, both.resolve_left fun diverge => ?_⟩
  obtain ⟨m, none⟩ := diverge.1 2
  cases none

end Probe

end ScriptCoverage
