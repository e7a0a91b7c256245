import Mathlib.Data.List.Perm.Subperm
import ScriptCoverage.Machine.Initial
import ScriptCoverage.Proofs.Machine.Loading

/-!
Factories run once. The host of a machine registers modules and runs code that registers none, one after the other;
`Moment` covers all machines on the way. Main statement: `factories_run_once` — at every moment the factories that are
running are different ones, a module that is asked for while it loads is handed out as it is, and between two
registrations a factory runs at most once more than it fails. When the host is in control, a module is loaded iff its
last run since it was registered has finished.
-/

namespace ScriptCoverage.Machine

open ScriptCoverage.Module (Happening running last? IsThere IsOrderly)

variable {σ α : Type} (happened : σ → List Happening)

/-- Machines of which the host is in control. At first no module is loaded and nothing has happened, but any may be
registered. -/
inductive InControl : Machine σ → Prop
  | fresh (m : Machine σ) (unloaded : m.loaded = {}) (new : happened m.host = []) : InControl m
  | registered {m : Machine σ} (before : InControl m) (key : String) (f : Module.Factory) {s : σ}
    (noted : happened s = happened m.host ++ [.registered key]) : InControl { m.register key f with host := s }
  | ran {α : Type} {m m' : Machine σ} (before : InControl m) {x : Run σ α} (code : HostCode happened x) (a : α)
    (run : x m = .ok a m') : InControl m'
  | failed {α : Type} {m m' : Machine σ} (before : InControl m) {x : Run σ α} (code : HostCode happened x)
    (e : RuntimeError) (run : x m = .error (.failed e) m') : InControl m'

/-- Machines at any moment while code of the host runs. -/
inductive Moment : Machine σ → Prop
  | intro {α : Type} {m : Machine σ} (before : InControl happened m) {x : Run σ α} (code : HostCode happened x) :
    Moment (machineOf (x m))

variable {happened}

/-- Registering a module takes it out of those that are loaded. -/
theorem Linked.register {m : Machine σ} (linked : Linked happened m) (idle : running (happened m.host) = [])
    (key : String) (f : Module.Factory) {s : σ} (noted : happened s = happened m.host ++ [.registered key]) :
    Linked happened { m.register key f with host := s } ∧ running (happened s) = [] := by
  have idle' : running (happened s) = [] := by
    rw [noted, Module.running_concat]
    exact idle
  refine ⟨⟨?_, fun k => ?_, fun k inside => ?_⟩, idle'⟩
  · change IsOrderly (happened s)
    rw [noted]
    exact linked.orderly.concat idle
  · change (m.loaded.erase key).contains k ↔ IsThere (happened s) k
    rw [noted, Table.contains, Table.get?_erase]
    by_cases same : key = k
    · subst same
      rw [if_pos rfl]
      exact iff_of_false Bool.false_ne_true (Module.not_isThere_registered idle)
    · rw [if_neg same, Module.isThere_concat_of_ne (e := .registered key) same]
      exact linked.loaded k
  · change k ∈ running (happened s) at inside
    rw [idle'] at inside
    cases inside

/-- When the host is in control, the machine is as its history says and no factory runs. -/
theorem InControl.linked {m : Machine σ} (control : InControl happened m) :
    Linked happened m ∧ running (happened m.host) = [] := by
  induction control with
  | fresh m unloaded new =>
    refine ⟨⟨?_, fun key => ?_, fun key inside => ?_⟩, ?_⟩
    · rw [new]
      exact .nil
    · rw [new, unloaded]
      exact iff_of_false Bool.false_ne_true nofun
    · rw [new] at inside
      cases inside
    · rw [new]
      rfl
  | registered _ key f noted ih => exact ih.1.register ih.2 key f noted
  | ran _ code a run ih =>
    have ends := code.keeps _ ih.1
    rw [run] at ends
    cases ends with
    | ok _ _ on back => exact ⟨on.linked, back.trans ih.2⟩
  | failed _ code e run ih =>
    have ends := code.keeps _ ih.1
    rw [run] at ends
    cases ends with
    | failed _ _ on back => exact ⟨on.linked, back.trans ih.2⟩

/-- At every moment the machine is as its history says. -/
theorem Moment.linked {m : Machine σ} (now : Moment happened m) : Linked happened m := by
  obtain ⟨before, code⟩ := now
  exact (code.keeps _ before.linked.1).goesOn.linked

/-- No more factories are running than modules are registered. -/
theorem Linked.length_running_le {m : Machine σ} (linked : Linked happened m) :
    (running (happened m.host)).length ≤ m.registry.size := by
  have registered : running (happened m.host) ⊆ m.registry.keys := fun key inside =>
    (Table.contains_iff_mem _ _).1 (linked.registered key inside)
  have fits := (List.subperm_of_subset linked.orderly.nodup_running registered).length_le
  rwa [Table.keys, List.length_map] at fits

/-- A module that is loaded is handed out as it is, and nothing else happens. -/
theorem require_of_loaded (ev : Evaluator σ) {m : Machine σ} {origin : Option String} {path key : String} {r : ObjectRef}
    (named : Module.resolve? m.registry.contains origin path = some key) (found : m.loaded.get? key = some r) :
    ev.require origin path m = .ok (Evaluator.exportsOf m.heap r) m := by
  have resolved : Run.resolve origin path m = .ok key m := by
    rw [Run.resolve_eq]
    change (Option.elim (Module.resolve? m.registry.contains origin path)
      (Run.fail (.moduleNotFound path (origin.getD Evaluator.rootName))) Pure.pure : Run σ String) m = _
    rw [named]
    rfl
  have loads : ev.load key m = .ok (Evaluator.exportsOf m.heap r) m := by
    rw [Evaluator.load_apply, found]
    rfl
  change EStateM.bind (Run.resolve origin path) ev.load m = _
  unfold EStateM.bind
  rw [resolved]
  exact loads

/-- What holds of factories at every moment, whatever the modules require of each other and however their factories
end. The keys of the factories that are running differ, so there are at most as many of them as registered modules.
While a module is not registered anew, its factory starts at most once more than it fails. A module whose factory is
running is handed out with what it exports at present, and the machine stays as it is. This is the module object that
was made when the factory started. When the host is in control, no factory runs, and a module is loaded iff the last
that happened to it is that its factory has finished. -/
theorem factories_run_once {m : Machine σ} (now : Moment happened m) :
    let h := happened m.host
    ((running h).Nodup ∧ (running h).length ≤ m.registry.size) ∧
    (∀ key before between after, h = before ++ between ++ after → .registered key ∉ between →
      between.count (.started key) ≤ between.count (.failed key) + 1) ∧
    (∀ key ∈ running h, ∃ r, m.loaded.get? key = some r ∧ ∀ (ev : Evaluator σ) origin path,
      Module.resolve? m.registry.contains origin path = some key →
        ev.require origin path m = .ok (Evaluator.exportsOf m.heap r) m) ∧
    (∀ key, m.loaded.get? key = none → m.registry.contains key →
      ∀ host : Host σ, host.RegistersNothing happened → ∀ waits n factory program,
      let ev := Evaluator.watched host waits n
      let start := m.opened host.loads key
      let run := ev.runFactory factory.params program (.object ⟨m.heap.objects.size⟩) m.factoryArgs
      ev.runModule key factory program m = (Run.attempt run >>= ev.settle key m.nextModule) start ∧
        (machineOf (run start)).loaded.get? key = some m.nextModule) ∧
    (InControl happened m → running h = [] ∧ ∀ key, m.loaded.contains key ↔ last? h key = some (.finished key)) := by
  have linked := now.linked
  refine ⟨⟨linked.orderly.nodup_running, linked.length_running_le⟩, ?_, ?_, ?_, ?_⟩
  · intro key before between after whole unregistered
    have orderly := linked.orderly
    rw [whole] at orderly
    exact orderly.count_started_le unregistered
  · intro key inside
    obtain ⟨r, found⟩ := (Table.contains_iff_get? _ _).1 ((linked.loaded key).2 (.inl inside))
    exact ⟨r, found, fun ev origin path named => require_of_loaded ev named found⟩
  · intro key away registered host silent waits n factory program
    refine ⟨?_, ?_⟩
    · rw [Evaluator.runModule_apply, Evaluator.host_watched]
    · have start : Linked happened (m.opened host.loads key) := linked.opened silent.notes away registered
      have inside := (keeping happened).runFactory (silent.evaluators waits n) factory.params program
        (.object ⟨m.heap.objects.size⟩) m.factoryArgs _ start
      refine inside.goesOn.loaded key m.nextModule ?_
      change (m.loaded.put key m.nextModule).get? key = some m.nextModule
      rw [Table.get?_put, if_pos rfl]
  · intro control
    have idle := control.linked.2
    refine ⟨idle, fun key => ?_⟩
    rw [linked.loaded, IsThere, idle]
    exact or_iff_right List.not_mem_nil

/-! ### A module that asks for itself -/

namespace SelfRequiring

/-- The module `require('m');`. -/
def factory : Module.Factory :=
  ⟨Module.Factory.loaderParams, "function(exports, require, module)\x7b\nrequire('m');\n\x7d", "require('m');"⟩

/-- A host that keeps a history and nothing else, and whose functions do nothing. -/
def host : Host (List Happening) := { call := fun _ _ _ => return .undefined, loads := fun e h => h ++ [.ran e] }

/-- A machine with the module and nothing else. -/
def machine : Machine (List Happening) :=
  { (bare ([] : List Happening)).register "m/index.js" factory with host := [.registered "m/index.js"] }

theorem inControl : InControl id machine := .registered (.fresh (bare []) rfl rfl) "m/index.js" factory rfl

theorem registersNothing : host.RegistersNothing id := ⟨fun _ _ _ => .pure _, fun _ _ => .pure _, fun _ _ => rfl⟩

/-- Asks for the module, up to the first moment that a watcher waits for. -/
def load (waits : Machine (List Happening) → Bool) : EStateM.Result Interrupt (Machine (List Happening)) Value :=
  (Task.require none "m").run (Evaluator.watched host waits 20) machine

/-- The machine when the factory has just started. -/
def inside : Machine (List Happening) := machineOf (load fun m => running m.host ≠ [])

/-- The machine behind it all. -/
def behind : Machine (List Happening) := machineOf (load fun _ => false)

theorem moment (waits : Machine (List Happening) → Bool) : Moment id (machineOf (load waits)) :=
  .intro inControl (registersNothing.task waits 20 (.require none "m"))

/-- Whether a run has a value. -/
def succeeds : EStateM.Result Interrupt (Machine (List Happening)) Value → Bool
  | .ok .. => true
  | .error .. => false

theorem inControl_behind : InControl id behind := by
  have ended : succeeds (load fun _ => false) = true := by decide +kernel
  cases run : load fun _ => false with
  | ok v m =>
    have same : behind = m := congrArg machineOf run
    rw [same]
    exact inControl.ran (registersNothing.task _ 20 (.require none "m")) v run
  | error i m =>
    rw [run] at ended
    cases ended

end SelfRequiring

open SelfRequiring in
/-- While the module runs it is handed out when it is asked for, and the machine stays as it is; behind that the host is
in control again and the module is loaded. -/
theorem factories_run_once_self_requiring :
    running inside.host = ["m/index.js"] ∧
    (∃ r, inside.loaded.get? "m/index.js" = some r ∧ ∀ ev : Evaluator (List Happening),
      ev.require none "m" inside = .ok (Evaluator.exportsOf inside.heap r) inside) ∧
    running behind.host = [] ∧ behind.loaded.contains "m/index.js" := by
  have current : running inside.host = ["m/index.js"] := by decide +kernel
  have named : Module.resolve? inside.registry.contains none "m" = some "m/index.js" := by decide +kernel
  have finished : last? behind.host "m/index.js" = some (.finished "m/index.js") := by decide +kernel
  obtain ⟨-, -, hands, -⟩ := factories_run_once (moment fun m => running m.host ≠ [])
  obtain ⟨-, -, -, -, returned⟩ := factories_run_once (moment fun _ => false)
  obtain ⟨r, found, required⟩ := hands "m/index.js" (current ▸ List.mem_cons_self)
  obtain ⟨idle, loaded⟩ := returned inControl_behind
  exact ⟨current, ⟨r, found, fun ev => required ev none "m" named⟩, idle, (loaded "m/index.js").2 finished⟩

end ScriptCoverage.Machine
