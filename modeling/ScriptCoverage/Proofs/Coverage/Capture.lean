import ScriptCoverage.Proofs.Coverage.Starting
import ScriptCoverage.Proofs.Coverage.Transparency

/-!
Where probes find their recorder. A session checks the name of its recorder against the global names only, while a
probe looks it up through all scopes around it. Main statements: `recorder_never_captured` — if no code binds or
assigns the name, then wherever a statement begins the name leads to the recorder of the session — and
`recorder_called_exports` — a session also starts with a name that every module binds, and its modules fail.
-/

namespace ScriptCoverage

open Machine

variable {σ σ' τ : Type}

namespace Machine

/-! ### Conditions on places where statements begin -/

/-- Whether a name leads to the recorder of a session: it is bound to it in the global frame and found there, or
an object of a `with` statement has a property with that name. A scope without the global frame finds nothing. -/
def reaches (m : Machine σ) (name : String) (session : Nat) (scope : Scope) : Bool :=
  match m.resolve? scope name with
  | some (.property _) => true
  | some (.binding (r :: _)) =>
    r = globalFrame &&
      match m.binding? globalFrame name with
      | some (.function f) =>
        match (m.heap.function f).kind with
        | .native (.host (.recorder s)) => s = session
        | _ => false
      | _ => false
  | some (.binding []) => false
  | none => !scope.contains globalFrame

/-- A host that stops a run where a statement begins and a condition does not hold. -/
def Host.requiring (host : Host σ) (p : Machine σ → Scope → Bool) : Host σ :=
  { host with
    begins := fun scope s => do
      if p (← get) scope then host.begins scope s else throw .stopped }

namespace Weave

variable {S : Weave} {m : Machine σ}

/-- Where the name of a recorder is looked up on a sound machine, it is found in the global frame, if at all. -/
theorem Sound.resolve?_cases (h : S.Sound m) (scope : Scope) :
    (∃ v, m.resolve? scope S.probe.recorder.name = some (.property v)) ∨
      (∃ outer, m.resolve? scope S.probe.recorder.name = some (.binding (globalFrame :: outer))) ∨
        (m.resolve? scope S.probe.recorder.name = none ∧ globalFrame ∉ scope) := by
  rw [resolve?]
  -- from the inside out: the walk ends at the global frame, and only frames of objects can have the name before it
  induction scope with
  | nil => exact .inr (.inr ⟨rfl, List.not_mem_nil⟩)
  | cons r outer ih =>
    rw [resolveWith?]
    by_cases hr : r = globalFrame
    · subst hr
      obtain ⟨f, _, bound, -⟩ := h.bound
      have isBound : m.isBound globalFrame S.probe.recorder.name = true := congrArg Option.isSome bound
      refine .inr (.inl ⟨outer, ?_⟩)
      cases hk : (m.frame globalFrame).kind with
      | object v => exact absurd hk (h.ground v)
      | _ => exact if_pos isBound
    · have absent : globalFrame ∉ outer → globalFrame ∉ r :: outer := fun h hc =>
        h ((List.mem_cons.1 hc).resolve_left (Ne.symm hr))
      have further := ih.imp id (Or.imp id (And.imp id absent))
      cases hk : (m.frame r).kind with
      | object v =>
        dsimp only
        split
        · exact .inl ⟨v, rfl⟩
        · exact further
      | _ =>
        dsimp only
        rw [if_neg (Bool.eq_false_iff.1 (h.elsewhere r hr))]
        exact further

theorem Sound.reaches (h : S.Sound m) (scope : Scope) : m.reaches S.probe.recorder.name S.session scope = true := by
  rw [Machine.reaches]
  rcases h.resolve?_cases scope with ⟨v, found⟩ | ⟨outer, found⟩ | ⟨found, absent⟩
  · rw [found]
  · obtain ⟨r, f, bound, hf, kind⟩ := h.bound
    have here : m.heap.function r = f := by rw [Heap.function, hf]; rfl
    rw [found]
    simp [bound, here, kind]
  · rw [found]
    simpa using absent

end Weave

namespace Simulation.SameHosts

variable {T : Simulation σ σ} {host host' : Host σ}

/-- A condition that holds on sound machines stops no run that was not stopped anyway. -/
theorem requiring (h : T.SameHosts host host') (home : T.home = none) {p : Machine σ → Scope → Bool}
    (holds : ∀ m, T.Sound m → ∀ scope, p m scope = true) : T.SameHosts host (host'.requiring p) where
  call := h.call
  begins scope s bare := by
    intro m m' hm
    have sound : T.Sound m' := by
      rw [hm.toCorresponds.eq_withHost home]
      exact hm.sound.withHost _
    have here : (host'.requiring p).begins scope s m' = host'.begins scope s m' :=
      congrFun (if_pos (holds m' sound scope)) m'
    rw [here]
    exact h.begins scope s bare m m' hm
  silent scope _ inside := absurd inside (Bool.eq_false_iff.1 (Weave.isHome_of_none home scope))
  loads := h.loads

end Simulation.SameHosts

/-! ### What hosts ask for -/

/-- What a host asks of a machine: to load a module, or to call a value. -/
inductive Request
  | require (origin : Option String) (path : String)
  | call (f this : Value) (args : List Value)

def Request.run (ev : Evaluator σ) : Request → Run σ Value
  | .require origin path => ev.require origin path
  | .call f this args => ev.call f this args

/-- The machines that come of a machine when its host asks for one thing after the other, whether this succeeds or
fails. -/
inductive Later (host : Host σ) (m : Machine σ) : Machine σ → Prop
  | refl : Later host m m
  | answered {m₁ m₂ : Machine σ} (h : Later host m m₁) (q : Request) (n : Nat) (v : Value)
    (run : q.run (Evaluator.ofFuel host n) m₁ = .ok v m₂) : Later host m m₂
  | failed {m₁ m₂ : Machine σ} (h : Later host m m₁) (q : Request) (n : Nat) (e : RuntimeError)
    (run : q.run (Evaluator.ofFuel host n) m₁ = .error (.failed e) m₂) : Later host m m₂

namespace Simulation

variable {T : Simulation σ σ} {host host' : Host σ} {m : Machine σ}

theorem Related.refl (home : T.home = none) (agree : T.agree m.host m.host) (sound : T.Sound m) : T.Related m m where
  heap := (T.heap_eq_self fun _ _ _ scope _ _ => T.isHome_of_none home scope).symm
  frames := rfl
  registry := rfl
  loaded := rfl
  depth := rfl
  console := rfl
  host := agree
  sound := sound

/-- Hosts that do the same answer requests in the same way. -/
theorem Matches.request (home : T.home = none) (agree : T.agree m.host m.host) (hosts : T.SameHosts host host')
    (sound : T.Sound m) (q : Request) (n : Nat) :
    T.Matches Eq (q.run (Evaluator.ofFuel host n) m) (q.run (Evaluator.ofFuel host' n) m) := by
  have sides : T.SideBySide (Evaluator.ofFuel host n) (Evaluator.ofFuel host' n) :=
    SideBySide.ofFuel hosts 0 (fun _ => rfl)
      (fun _ scope _ _ inside _ => absurd inside (Bool.eq_false_iff.1 (Weave.isHome_of_none home scope))) n
  cases q with
  | require origin path => exact Same.require sides origin path m m (.refl home agree sound)
  | call f this args => exact sides.call f this args m m (.refl home agree sound)

/-- A machine that is sound stays so whatever its host asks for. -/
theorem sound_of_later (home : T.home = none) (agree : ∀ s, T.agree s s)
    (hosts : T.SameHosts host host) (sound : T.Sound m) {m₁ : Machine σ} (later : Later host m m₁) : T.Sound m₁ := by
  induction later with
  | refl => exact sound
  | answered _ q n v run ih =>
    have both := Matches.request home (agree _) hosts ih q n
    rw [run] at both
    cases both with
    | ok _ hm => exact hm.sound
  | failed _ q n e run ih =>
    have both := Matches.request home (agree _) hosts ih q n
    rw [run] at both
    cases both with
    | failed _ hm => exact hm.sound

/-- Where the second run keeps up with the first one it is stopped only if the first one is. -/
theorem Matches.stopped_or {α β : Type} {V : α → β → Prop} {x : EStateM.Result Interrupt (Machine σ) α}
    {y : EStateM.Result Interrupt (Machine σ) β} (h : T.Matches V x y) (lead : T.lead = .second) :
    (∃ m, x = .error .stopped m) ∨ ∀ m, y ≠ .error .stopped m := by
  cases h with
  | ok => exact .inr nofun
  | failed => exact .inr nofun
  | stopped m => exact .inl ⟨m, rfl⟩
  | first first => exact nomatch lead.symm.trans first
  | second => exact .inr nofun

end Simulation

/-- Whether no code of a machine binds or assigns a name, and no frame but the global one holds it. -/
structure Spares (m : Machine σ) (name : String) : Prop where
  arguments : name ≠ "arguments"
  elsewhere : ∀ r, r ≠ globalFrame → m.isBound r name = false
  functions : ∀ (i : Nat) (f : Function) decl scope, m.heap.functions[i]? = some f → f.kind = .script decl scope →
    decl.BindsOnly (· ≠ name) (fun _ => True)
  registry : ∀ key f, m.registry.get? key = some f → (∀ p ∈ f.params, p ≠ name) ∧
    ∀ program, f.compile = .ok program → Program.Stmt.BodyBindsOnly (· ≠ name) (fun _ => True) program.body

end Machine

/-! ### A module for examples -/

namespace OneModule

/-- The module `exports.a = 1;`. -/
def factory : Module.Factory :=
  ⟨Module.Factory.loaderParams, "function(exports, require, module)\x7b\nexports.a = 1;\n\x7d", "exports.a = 1;"⟩

/-- A machine with one module and nothing else. -/
def machine : Machine (Ledger Unit) := (Machine.bare ⟨#[], ()⟩).register "m/index.js" factory

/-- Whether a program is a call with three literals and then an assignment to a property of a name. -/
def IsProbedAssignment : Program → Bool
  | ⟨_, [.expression _ (.call _ (.place (.name _ _)) [.string .., .number .., .number ..]),
      .expression _ (.assign _ .assign (.member _ (.place (.name _ _)) _) (.number ..))]⟩ => true
  | _ => false

theorem IsProbedAssignment.bindsOnly {program : Program} (h : IsProbedAssignment program = true) (names : String → Prop) :
    Program.Stmt.BodyBindsOnly names (fun _ => True) program.body := by
  unfold IsProbedAssignment at h
  split at h
  · refine ⟨trivial, ?_, trivial, ?_, trivial⟩
    · exact ⟨trivial, trivial, trivial, trivial, trivial⟩
    · exact ⟨trivial, trivial⟩
  · cases h

/-- Whether a run ended with a call of a value that is no function. -/
def callsNoFunction {α : Type} : EStateM.Result Interrupt (Machine σ) α → Bool
  | .error (.failed (.typeFault (.notFunction _))) _ => true
  | _ => false

/-- Whether a run succeeded and something holds of the machine that it left. -/
def succeeds {α : Type} (p : Machine σ → Bool) : EStateM.Result Interrupt (Machine σ) α → Bool
  | .ok _ m => p m
  | .error _ _ => false

theorem exists_of_succeeds {α : Type} {p : Machine σ → Bool} {r : EStateM.Result Interrupt (Machine σ) α}
    (h : succeeds p r = true) : ∃ a m, r = .ok a m ∧ p m = true := by
  cases r with
  | ok a m => exact ⟨a, m, rfl, h⟩
  | error => cases h

def isNative : FunctionKind → Bool
  | .native _ => true
  | _ => false

/-- Whether a machine has one frame and native functions only, and its modules are assignments with a probe and
without a parameter of a given name. -/
def isPlain (m : Machine σ) (name : String) : Bool :=
  m.frames.size == 1 && m.heap.functions.all (isNative ·.kind) &&
    m.registry.values.all fun f => !f.params.contains name && f.compile.toOption.all IsProbedAssignment

theorem spares_of_isPlain {m : Machine σ} {name : String} (arguments : name ≠ "arguments") (h : isPlain m name = true) :
    m.Spares name := by
  simp only [isPlain, Bool.and_eq_true, beq_iff_eq, Array.all_eq_true_iff_forall_mem, List.all_eq_true] at h
  obtain ⟨⟨one, native⟩, plain⟩ := h
  exact {
    arguments
    elsewhere := fun r hr => by
      have outside : m.frames[r.index]? = none := by
        refine Array.getElem?_eq_none ?_
        have : r.index ≠ 0 := fun h => hr (congrArg FrameRef.mk h)
        omega
      rw [Machine.isBound, Machine.frame, outside]
      rfl
    functions := fun i f decl scope hf hk => by
      have := native f (Array.mem_of_getElem? hf)
      rw [hk] at this
      cases this
    registry := fun key f hf => by
      have listed : f ∈ m.registry.values := Table.mem_values_of_get? hf
      obtain ⟨params, compiles⟩ : f.params.contains name = false ∧ _ := by simpa using plain f listed
      refine ⟨fun p hp same => ?_, fun program hc => ?_⟩
      · subst same
        rw [List.contains_iff_mem.2 hp] at params
        cases params
      · rw [hc] at compiles
        exact IsProbedAssignment.bindsOnly compiles _ }

end OneModule

namespace Session

variable {c : Config} {recorder : Identifier} {m m' : Machine (Ledger τ)} {s : Session}

/-- After the start of a session a machine is sound if no code of it binds the name of the recorder. -/
theorem Patched.sound (h : Patched c recorder m s m') {g : Frame} (global : m.frames[0]? = some g)
    (kind : g.kind = .global) (spares : m'.Spares recorder.name) {S : Weave} (hS : S.probe.recorder = recorder)
    (session : S.session = s.number) (home : S.home = none) : S.Sound m' := by
  subst hS
  have bare := S.isHome_of_none home
  -- what the start adds to the frames is one binding, that of the recorder in the global frame
  have frame (r : FrameRef) : m'.frame r =
      (m.bind globalFrame S.probe.recorder.name (.function ⟨m.heap.functions.size⟩)).frame r := by
    rw [Machine.frame, Machine.frame, h.frames]
  have ground : m.frame globalFrame = g := by
    rw [Machine.frame, globalFrame, global]
    rfl
  have inside : globalFrame.index < m.frames.size := (Array.getElem?_eq_some_iff.1 global).1
  have isFunction : ∃ f, m'.heap.functions[m.heap.functions.size]? = some f ∧
      f.kind = .native (.host (.recorder S.session)) := by
    have kind := h.function
    rw [Heap.function] at kind
    cases hf : m'.heap.functions[m.heap.functions.size]? with
    | none =>
      rw [hf] at kind
      cases kind
    | some f =>
      rw [hf] at kind
      exact ⟨f, rfl, session ▸ kind⟩
  obtain ⟨f, hf, isRecorder⟩ := isFunction
  exact {
    home := fun r hr => by
      rw [home] at hr
      cases hr
    arguments := Ne.symm spares.arguments
    ground := fun v => by
      rw [frame, Machine.bind, Machine.kind_modifyBindings, ground, kind]
      intro same
      cases same
    bound := by
      refine ⟨⟨m.heap.functions.size⟩, f, ?_, hf, isRecorder⟩
      rw [Machine.binding?, frame, Machine.bind, Machine.frame_modifyBindings, if_pos ⟨rfl, inside⟩, Table.get?_put,
        if_pos rfl]
    elsewhere := spares.elsewhere
    functions := fun i f hf => by
      cases hk : f.kind with
      | script decl scope =>
        refine ⟨fun home => absurd home (Bool.eq_false_iff.1 (bare scope)), ?_⟩
        rw [Weave.ranges_of_not_home (bare scope)]
        exact spares.functions i f decl scope hf hk
      | _ => trivial
    registry := spares.registry }

/-- Whether a session starts, and something holds of it and of the machine that it leaves. -/
def startsWith (c : Config) (m : Machine (Ledger τ)) (p : Session → Machine (Ledger τ) → Bool) : Bool :=
  match start c "" m with
  | .ok s m' => p s m'
  | .error _ _ => false

theorem exists_of_startsWith {p : Session → Machine (Ledger τ) → Bool} (h : startsWith c m p = true) :
    ∃ s m', start c "" m = .ok s m' ∧ p s m' = true := by
  rw [startsWith] at h
  split at h
  · next s m' started => exact ⟨s, m', started, h⟩
  · cases h

/-- Recorders are never captured by code that spares their names. After the start of a session, and after anything
that the host then asked for, a run that is stopped as soon as a statement begins where the name of the recorder
does not lead to the recorder is stopped only if it is stopped without this condition. -/
theorem recorder_never_captured {other : Host (Ledger τ)} (blind : other.Blind) {generated : String}
    (started : start c generated m = .ok s m') {g : Frame} (global : m.frames[0]? = some g) (kind : g.kind = .global)
    (spares : m'.Spares s.recorderName) {m₁ : Machine (Ledger τ)} (later : Later (Recorder.host other) m' m₁)
    (q : Request) (n : Nat) :
    (∃ m₂, q.run (Evaluator.ofFuel (Recorder.host other) n) m₁ = .error .stopped m₂) ∨
      ∀ m₂, q.run (Evaluator.ofFuel ((Recorder.host other).requiring fun m scope =>
        m.reaches s.recorderName s.number scope) n) m₁ ≠ .error .stopped m₂ := by
  obtain ⟨recorder, patched⟩ := start_patched started
  have hn : s.recorderName = recorder.name := patched.recorderName
  let T : Simulation (Ledger τ) (Ledger τ) := (Probe.beside ⟨recorder, ""⟩ s.number Eq).led .second
  have same : T.SameHosts (Recorder.host other) (Recorder.host other) := Probe.sameHosts_beside blind .second
  have sound : T.Sound m' := patched.sound global kind (hn ▸ spares) rfl rfl rfl
  have sound₁ : T.Sound m₁ := Simulation.sound_of_later (T := T) rfl (fun _ => rfl) same sound later
  have checked := same.requiring rfl (p := fun m scope => m.reaches s.recorderName s.number scope)
    fun m hm scope => hn ▸ hm.reaches scope
  exact (Simulation.Matches.request (T := T) rfl rfl checked sound₁ q n).stopped_or rfl

/-- It is so for the module `exports.a = 1;`, also when it has been loaded. -/
theorem recorder_never_captured_assignment :
    ∃ s m' m₁, start { component := "m", recorderName := some "cov" } "" OneModule.machine = .ok s m' ∧
      Later (Recorder.host NestedEmpty.host) m' m₁ ∧ m₁.loaded.contains "m/index.js" = true ∧ ∀ q n,
      (∃ m₂, Request.run (Evaluator.ofFuel (Recorder.host NestedEmpty.host) n) q m₁ = .error .stopped m₂) ∨
        ∀ m₂, Request.run (Evaluator.ofFuel ((Recorder.host NestedEmpty.host).requiring fun m scope =>
          m.reaches s.recorderName s.number scope) n) q m₁ ≠ .error .stopped m₂ := by
  obtain ⟨s, m', started, h⟩ := exists_of_startsWith (c := { component := "m", recorderName := some "cov" })
    (m := OneModule.machine) (p := fun s m' => s.recorderName == "cov" && OneModule.isPlain m' "cov" &&
      OneModule.succeeds (·.loaded.contains "m/index.js")
        (Request.run (Evaluator.ofFuel (Recorder.host NestedEmpty.host) 30) (.require none "m") m')) (by decide +kernel)
  simp only [Bool.and_eq_true, beq_iff_eq] at h
  obtain ⟨⟨name, plain⟩, runs⟩ := h
  obtain ⟨v, m₁, run, loaded⟩ := OneModule.exists_of_succeeds runs
  have later : Later (Recorder.host NestedEmpty.host) m' m₁ := .answered .refl (.require none "m") 30 v run
  refine ⟨s, m', m₁, started, later, loaded, fun q n => ?_⟩
  exact recorder_never_captured NestedEmpty.blind started rfl rfl
    (name ▸ OneModule.spares_of_isPlain (by decide) plain) later q n

/-- A session starts with the name `exports` for its recorder, which every module binds. The module can be loaded
before that and no longer behind it. -/
theorem recorder_called_exports :
    OneModule.succeeds (·.loaded.contains "m/index.js")
      (Request.run (Evaluator.ofFuel (Recorder.host NestedEmpty.host) 30) (.require none "m") OneModule.machine) = true ∧
    ∃ s m', start { component := "m", recorderName := some "exports" } "" OneModule.machine = .ok s m' ∧
      OneModule.callsNoFunction (Request.run (Evaluator.ofFuel (Recorder.host NestedEmpty.host) 30) (.require none "m")
        m') = true := by
  refine ⟨by decide +kernel, exists_of_startsWith ?_⟩
  decide +kernel

end Session

end ScriptCoverage
