import ScriptCoverage.Proofs.Machine.CongruentEvaluators
import ScriptCoverage.Proofs.Machine.Moments
import ScriptCoverage.Proofs.Module.Histories
import ScriptCoverage.Proofs.Table

/-!
What runs do to the modules that are loaded. The host keeps a history of its modules, of which `happened` says where it
is in the host's state. `Linked` ties the history to the machine: it is orderly, and a module is loaded iff it is there
by the history. Main statement: `HostCode.keeps` — all code of a host that registers no modules keeps the two tied
together, whatever it asks of the machine and however that ends.
-/

namespace ScriptCoverage.Machine

open ScriptCoverage.Module (Happening running last? IsThere IsOrderly)

variable {σ α β : Type} (happened : σ → List Happening)

/-! ### Machines and their histories -/

/-- Whether a machine is as the history of its modules says. -/
structure Linked (m : Machine σ) : Prop where
  orderly : IsOrderly (happened m.host)
  loaded : ∀ key, m.loaded.contains key ↔ IsThere (happened m.host) key
  registered : ∀ key ∈ running (happened m.host), m.registry.contains key

/-- Whether a machine may come of another one while no module is registered. Modules that were there at the beginning
are so with the same module objects. -/
structure GoesOn (m m' : Machine σ) : Prop where
  linked : Linked happened m'
  registry : m'.registry = m.registry
  loaded : ∀ key r, m.loaded.get? key = some r → m'.loaded.get? key = some r

/-- Whether a run ended on a machine that may come of the one that it began with. If it ended by itself, then the same
factories are running as before. -/
inductive LeadsTo (m : Machine σ) : EStateM.Result Interrupt (Machine σ) α → Prop
  | ok (a : α) (m' : Machine σ) (on : GoesOn happened m m')
    (back : running (happened m'.host) = running (happened m.host)) : LeadsTo m (.ok a m')
  | failed (e : RuntimeError) (m' : Machine σ) (on : GoesOn happened m m')
    (back : running (happened m'.host) = running (happened m.host)) : LeadsTo m (.error (.failed e) m')
  | outOfFuel (m' : Machine σ) (on : GoesOn happened m m') : LeadsTo m (.error .outOfFuel m')
  | stopped (m' : Machine σ) (on : GoesOn happened m m') : LeadsTo m (.error .stopped m')

/-- Whether a run goes on from every machine that is as its history says. -/
def Keeps (x : Run σ α) : Prop := ∀ m, Linked happened m → LeadsTo happened m (x m)

variable {happened}

theorem Linked.goesOn {m : Machine σ} (linked : Linked happened m) : GoesOn happened m m :=
  ⟨linked, rfl, fun _ _ found => found⟩

theorem GoesOn.trans {m₁ m₂ m₃ : Machine σ} (first : GoesOn happened m₁ m₂) (second : GoesOn happened m₂ m₃) :
    GoesOn happened m₁ m₃ :=
  ⟨second.linked, second.registry.trans first.registry, fun key r found => second.loaded key r (first.loaded key r found)⟩

/-- A machine on which nothing has changed that has to do with modules. -/
theorem Linked.goesOn_of_eq {m m' : Machine σ} (linked : Linked happened m) (history : happened m'.host = happened m.host)
    (loaded : m'.loaded = m.loaded) (registry : m'.registry = m.registry) : GoesOn happened m m' := by
  refine ⟨⟨?_, fun key => ?_, fun key inside => ?_⟩, registry, fun key r found => ?_⟩
  · rw [history]
    exact linked.orderly
  · rw [history, loaded]
    exact linked.loaded key
  · rw [registry]
    rw [history] at inside
    exact linked.registered key inside
  · rw [loaded]
    exact found

namespace LeadsTo

variable {m m' : Machine σ} {r : EStateM.Result Interrupt (Machine σ) α}

theorem goesOn (ends : LeadsTo happened m r) : GoesOn happened m (machineOf r) := by
  cases ends with
  | ok _ _ on | failed _ _ on | outOfFuel _ on | stopped _ on => exact on

theorem after (ends : LeadsTo happened m' r) (on : GoesOn happened m m')
    (back : running (happened m'.host) = running (happened m.host)) : LeadsTo happened m r := by
  cases ends with
  | ok a n on' back' => exact .ok a n (on.trans on') (back'.trans back)
  | failed e n on' back' => exact .failed e n (on.trans on') (back'.trans back)
  | outOfFuel n on' => exact .outOfFuel n (on.trans on')
  | stopped n on' => exact .stopped n (on.trans on')

end LeadsTo

/-! ### Putting runs together -/

namespace Keeps

/-- A step that leaves alone what has to do with modules. -/
theorem step {x : Run σ α} {f : Machine σ → α × Machine σ} (ran : ∀ m, x m = .ok (f m).1 (f m).2)
    (history : ∀ m, happened (f m).2.host = happened m.host) (loaded : ∀ m, (f m).2.loaded = m.loaded)
    (registry : ∀ m, (f m).2.registry = m.registry) : Keeps happened x := by
  intro m linked
  rw [ran]
  refine .ok _ _ (linked.goesOn_of_eq (history m) (loaded m) (registry m)) ?_
  rw [history]

theorem pure (a : α) : Keeps happened (pure a) :=
  step (f := fun m => (a, m)) (fun _ => rfl) (fun _ => rfl) (fun _ => rfl) fun _ => rfl

theorem look (f : Machine σ → α) : Keeps happened (fun m => .ok (f m) m) :=
  step (f := fun m => (f m, m)) (fun _ => rfl) (fun _ => rfl) (fun _ => rfl) fun _ => rfl

theorem onMemory (f : Machine Unit → α × Machine Unit) : Keeps happened (Run.onMemory f : Run σ α) :=
  step (f := fun m => ((f m.memory).1, { m with heap := (f m.memory).2.heap, frames := (f m.memory).2.frames }))
    (fun _ => rfl) (fun _ => rfl) (fun _ => rfl) fun _ => rfl

theorem log (line : String) : Keeps happened (Run.log line : Run σ Unit) :=
  step (f := fun m => ((), { m with console := m.console.push line })) (fun _ => rfl) (fun _ => rfl) (fun _ => rfl)
    fun _ => rfl

theorem note {f : σ → σ} (quiet : ∀ s, happened (f s) = happened s) : Keeps happened (Run.note f) :=
  step (f := fun m => ((), { m with host := f m.host })) (fun _ => rfl) (fun m => quiet m.host) (fun _ => rfl)
    fun _ => rfl

theorem fail (e : RuntimeError) : Keeps happened (Run.fail e : Run σ α) := fun m linked =>
  .failed e m linked.goesOn rfl

theorem outOfFuel : Keeps happened (throw .outOfFuel : Run σ α) := fun m linked => .outOfFuel m linked.goesOn

theorem stop : Keeps happened (throw .stopped : Run σ α) := fun m linked => .stopped m linked.goesOn

theorem bind {x : Run σ α} {f : α → Run σ β} (hx : Keeps happened x) (hf : ∀ a, Keeps happened (f a)) :
    Keeps happened (x >>= f) := by
  intro m linked
  have first := hx m linked
  change LeadsTo happened m (EStateM.bind x f m)
  unfold EStateM.bind
  generalize x m = r at first
  cases first with
  | ok a n on back => exact (hf a n on.linked).after on back
  | failed e n on back => exact .failed e n on back
  | outOfFuel n on => exact .outOfFuel n on
  | stopped n on => exact .stopped n on

theorem attempt {x : Run σ α} (hx : Keeps happened x) : Keeps happened (Run.attempt x) := by
  intro m linked
  have ends := hx m linked
  unfold Run.attempt
  generalize x m = r at ends
  cases ends with
  | ok a n on back => exact .ok (Except.ok a) n on back
  | failed e n on back => exact .ok (Except.error e) n on back
  | outOfFuel n on => exact .outOfFuel n on
  | stopped n on => exact .stopped n on

theorem resume (r : Except RuntimeError α) : Keeps happened (Run.resume r : Run σ α) := by
  cases r with
  | ok a => exact pure a
  | error e => exact fail e

theorem deeper {x : Run σ α} (hx : Keeps happened x) : Keeps happened (Run.deeper x) := by
  intro m linked
  have inside : GoesOn happened m { m with depth := m.depth + 1 } := linked.goesOn_of_eq rfl rfl rfl
  have ends := hx _ inside.linked
  -- The depth that is set behind the run has nothing to do with modules.
  have outside (n : Machine σ) (on : GoesOn happened { m with depth := m.depth + 1 } n) :
      GoesOn happened m { n with depth := m.depth } :=
    (inside.trans on).trans (on.linked.goesOn_of_eq rfl rfl rfl)
  unfold Run.deeper
  dsimp only
  generalize x { m with depth := m.depth + 1 } = r at ends
  cases ends with
  | ok a n on back => exact .ok a _ (outside n on) back
  | failed e n on back => exact .failed e _ (outside n on) back
  | outOfFuel n on => exact .outOfFuel _ (outside n on)
  | stopped n on => exact .stopped _ (outside n on)

theorem watched {x : Run σ α} (hx : Keeps happened x) (waits : Machine σ → Bool) :
    Keeps happened (Run.watched waits x) := by
  have watch : Keeps happened (Run.watch waits) := by
    intro m linked
    unfold Run.watch
    split
    · exact .stopped m linked.goesOn
    · exact .ok () m linked.goesOn rfl
  exact bind watch fun _ => bind hx fun a => bind watch fun _ => pure a

end Keeps

variable (happened) in
/-- Keeping machines as their histories say goes along with how runs are put together. -/
def keeping : Congruence σ σ where
  Rel x _ := Keeps happened x
  pure := .pure
  bind := .bind
  fail _ := .fail _
  outOfFuel := .outOfFuel
  onMemory f _ := .onMemory f
  bindName _ _ _ _ := .onMemory _
  openFrame kind bindings _ behind := by
    rw [Run.openFrame_bind]
    exact .bind (.onMemory _) fun r => behind r trivial trivial
  log := .log
  onRegistry f := .look fun m => f m.registry
  level {_ x _} h := by
    intro m linked
    change LeadsTo happened m ((if maxDepth ≤ m.depth then Run.fail .stackOverflow else Run.deeper x) m)
    split
    · exact Keeps.fail _ m linked
    · exact Keeps.deeper h m linked
  attempt hx ok caught uncaught := by
    refine .bind (.attempt hx) fun r => ?_
    match r with
    | .ok a => exact ok a
    | .error e =>
      cases catchable : e.isCatchable with
      | true => exact caught e catchable
      | false =>
        rw [(uncaught e catchable).1]
        exact .fail e

instance : (keeping happened).Everywhere := ⟨fun _ => trivial⟩

instance : (keeping happened).OwnsAll := ⟨fun _ => trivial⟩

/-! ### Loading modules -/

/-- The module object that a machine makes next, behind the object for the exports. -/
def nextModule (m : Machine σ) : ObjectRef := ⟨(m.heap.objects.push { proto := some objectPrototype }).size⟩

/-- The machine on which the factory of a module starts: its module counts as loaded. -/
def opened (m : Machine σ) (loads : ModuleEvent → σ → σ) (key : String) : Machine σ :=
  let exports : ObjectRef := ⟨m.heap.objects.size⟩
  let object : Object := (({ proto := some objectPrototype } : Object).set "exports" (.object exports)).set "id" (.string key)
  { m with
    heap := { m.heap with
      objects := (m.heap.objects.push { proto := some objectPrototype }).push object
      functions := m.heap.functions.push { name := "require", kind := .native (.require (some key)) } }
    loaded := m.loaded.put key m.nextModule
    host := loads (.started key) m.host }

/-- The arguments of a factory: its exports, the function that loads modules for it, and its module object. -/
def factoryArgs (m : Machine σ) : List Value :=
  [.object ⟨m.heap.objects.size⟩, .function ⟨m.heap.functions.size⟩, .object m.nextModule]

/-- What follows when the factory of a module has ended. -/
def Evaluator.settle (ev : Evaluator σ) (key : String) (r : ObjectRef) : Except RuntimeError Unit → Run σ Value
  | .ok _ => do
    Run.note (ev.host.loads (.finished key))
    Run.see (Evaluator.exportsOf · r)
  | .error e => do
    modify fun m => { m with loaded := m.loaded.erase key }
    Run.note (ev.host.loads (.failed key))
    Run.fail e

theorem Evaluator.runModule_apply (ev : Evaluator σ) (key : String) (factory : Module.Factory) (program : Program)
    (m : Machine σ) : ev.runModule key factory program m =
      (Run.attempt (ev.runFactory factory.params program (.object ⟨m.heap.objects.size⟩) m.factoryArgs) >>=
        ev.settle key m.nextModule) (m.opened ev.host.loads key) := by
  rfl

section

variable {m n : Machine σ} {loads : ModuleEvent → σ → σ} {key : String}
  (notes : ∀ e s, happened (loads e s) = happened s ++ [.ran e])

include notes

theorem running_opened : running (happened (m.opened loads key).host) = key :: running (happened m.host) := by
  have history : happened (m.opened loads key).host = happened m.host ++ [.started key] := notes _ _
  rw [history, Module.running_concat]
  rfl

/-- A module may start to load if it is registered and not there. -/
theorem Linked.opened (linked : Linked happened m) (away : m.loaded.get? key = none) (registered : m.registry.contains key) :
    Linked happened (m.opened loads key) := by
  have history : happened (m.opened loads key).host = happened m.host ++ [.started key] := notes _ _
  refine ⟨?_, fun k => ?_, fun k inside => ?_⟩
  · rw [history]
    refine linked.orderly.concat fun there => ?_
    have loaded := (linked.loaded key).2 there
    rw [Table.contains, away] at loaded
    cases loaded
  · rw [history]
    change (m.loaded.put key m.nextModule).contains k ↔ _
    rw [Table.contains, Table.get?_put]
    by_cases same : key = k
    · subst same
      rw [if_pos rfl]
      exact iff_of_true rfl Module.isThere_started
    · rw [if_neg same, Module.isThere_concat_of_ne (e := .started key) same]
      exact linked.loaded k
  · rw [running_opened notes] at inside
    rcases List.mem_cons.1 inside with rfl | older
    · exact registered
    · exact linked.registered k older

omit notes in
/-- Modules that were there before a module started to load are not the one that did. -/
theorem GoesOn.loaded_of_opened (inside : GoesOn happened (m.opened loads key) n) (away : m.loaded.get? key = none)
    {k : String} {r : ObjectRef} (found : m.loaded.get? k = some r) : key ≠ k ∧ n.loaded.get? k = some r := by
  have other : key ≠ k := by
    rintro rfl
    rw [away] at found
    cases found
  refine ⟨other, inside.loaded k r ?_⟩
  change (m.loaded.put key m.nextModule).get? k = some r
  rw [Table.get?_put, if_neg other]
  exact found

/-- When the factory of a module ends, the module stays if it finished, and is taken out if it failed. -/
theorem GoesOn.ended (inside : GoesOn happened (m.opened loads key) n) (away : m.loaded.get? key = none)
    (back : running (happened n.host) = running (happened (m.opened loads key).host)) {e : ModuleEvent}
    (ends : e = .finished key ∨ e = .failed key) (loaded : Table ObjectRef) (stays : loaded.contains key ↔ e = .finished key)
    (others : ∀ k, key ≠ k → loaded.get? k = n.loaded.get? k) :
    GoesOn happened m { n with loaded, host := loads e n.host } ∧
      running (happened (loads e n.host)) = running (happened m.host) := by
  have history : happened (loads e n.host) = happened n.host ++ [.ran e] := notes _ _
  have owner : (Happening.ran e).key = key := by rcases ends with rfl | rfl <;> rfl
  rw [running_opened notes] at back
  -- the factory that ends is the innermost one that is running
  have after : running (happened (loads e n.host)) = running (happened m.host) := by
    rw [history, Module.running_concat, back]
    rcases ends with rfl | rfl <;> exact List.erase_cons_head ..
  have now : (Happening.ran e).MayFollow (happened n.host) := by
    have head : (running (happened n.host)).head? = some key := by
      rw [back]
      rfl
    rcases ends with rfl | rfl <;> exact head
  refine ⟨⟨⟨?_, fun k => ?_, fun k running => ?_⟩, inside.registry, fun k r found => ?_⟩, after⟩
  · change IsOrderly (happened (loads e n.host))
    rw [history]
    exact inside.linked.orderly.concat now
  · change loaded.contains k ↔ IsThere (happened (loads e n.host)) k
    rw [history]
    by_cases same : key = k
    · subst same
      rw [stays]
      rcases ends with rfl | rfl
      · exact iff_of_true rfl Module.isThere_finished
      · exact iff_of_false nofun (Module.not_isThere_failed inside.linked.orderly)
    · rw [Module.isThere_concat_of_ne (owner ▸ same), Table.contains, others k same]
      exact inside.linked.loaded k
  · refine inside.linked.registered k ?_
    rw [back]
    exact List.mem_cons_of_mem key (after ▸ running)
  · obtain ⟨other, found⟩ := inside.loaded_of_opened away found
    exact (others k other).trans found

end

/-! ### Evaluators -/

namespace Keeps

variable {ev : Evaluator σ} (hp : (keeping happened).Alike ev ev)

include hp

/-- Whatever comes first, the last block of a statement is run behind it and decides how the statement ends. -/
theorem tryCatch (scope : Scope) (b : Program.Block) (handler : Option Program.Handler) (f : Program.Block) :
    Keeps happened (ev.tryCatch scope b handler (some f)) := by
  have first : Keeps happened (ev.guarded scope b handler) := (keeping happened).guarded hp scope b handler
  have lastly : Keeps happened (ev.body scope f.body) := (keeping happened).body hp scope f.body
  refine bind first.attempt fun result => bind lastly fun c => ?_
  cases c with
  | normal => exact resume result
  | returned | broke | continued => exact pure _

theorem evalStmt (scope : Scope) (labels : List String) (s : Program.Stmt) :
    Keeps happened (ev.evalStmt scope labels s) :=
  (keeping happened).evalStmt hp scope labels s fun _ b handler f _ => tryCatch hp scope b handler f

variable (notes : ∀ e s, happened (ev.host.loads e s) = happened s ++ [.ran e])

include notes

/-- The factory of a module runs while the module counts as loaded. -/
theorem runModule {m : Machine σ} (linked : Linked happened m) {key : String} (away : m.loaded.get? key = none)
    (registered : m.registry.contains key) (factory : Module.Factory) (program : Program) :
    LeadsTo happened m (ev.runModule key factory program m) := by
  have inside := (keeping happened).runFactory hp factory.params program (.object ⟨m.heap.objects.size⟩) m.factoryArgs _
    (linked.opened notes away registered)
  rw [Evaluator.runModule_apply]
  change LeadsTo happened m (EStateM.bind (Run.attempt _) _ _)
  unfold EStateM.bind Run.attempt
  generalize ev.runFactory factory.params program (.object ⟨m.heap.objects.size⟩) m.factoryArgs _ = r at inside
  have outside {n : Machine σ} (on : GoesOn happened (m.opened ev.host.loads key) n) : GoesOn happened m n :=
    ⟨on.linked, on.registry, fun k r found => (on.loaded_of_opened away found).2⟩
  cases inside with
  | ok _ n on back =>
    obtain ⟨on', back'⟩ := on.ended notes away back (.inl rfl) n.loaded
      (iff_of_true ((on.linked.loaded key).2 (.inl (by rw [back, running_opened notes]; exact List.mem_cons_self))) rfl)
      fun _ _ => rfl
    exact .ok _ _ on' back'
  | failed e n on back =>
    obtain ⟨on', back'⟩ := on.ended notes away back (.inr rfl) (n.loaded.erase key)
      (iff_of_false (by simp [Table.contains]) nofun) fun k other => by rw [Table.get?_erase, if_neg other]
    exact .failed e _ on' back'
  | outOfFuel n on => exact .outOfFuel n (outside on)
  | stopped n on => exact .stopped n (outside on)

theorem load (key : String) : Keeps happened (ev.load key) := by
  intro m linked
  rw [Evaluator.load_apply]
  cases away : m.loaded.get? key with
  | some r => exact pure (Evaluator.exportsOf m.heap r) m linked
  | none =>
    cases found : m.registry.get? key with
    | none => exact fail _ m linked
    | some factory =>
      have registered : m.registry.contains key := (Table.contains_iff_get? _ _).2 ⟨factory, found⟩
      dsimp only
      cases factory.compile with
      | ok program => exact runModule hp notes linked away registered factory program
      | error cause => exact fail _ m linked

theorem task (t : Task) : Keeps happened (t.run ev) := by
  have loads (key : String) : (keeping happened).Rel (ev.load key) (ev.load key) := load hp notes key
  cases t with
  | eval source => exact (keeping happened).run hp source
  | require origin path => exact (keeping happened).require loads origin path
  | call f this args => exact hp.call f this args
  | construct f args => exact (keeping happened).construct hp f args
  | get v key => exact (keeping happened).getProperty hp.call v key
  | set v key new => exact bind ((keeping happened).setProperty hp.call v key new) fun _ => pure _

omit hp notes in
/-- A host whose own code keeps machines as their histories say makes evaluators that do. -/
theorem evaluators {host : Host σ} (call : ∀ f this args, Keeps happened (host.call f this args))
    (begins : ∀ scope s, Keeps happened (host.begins scope s))
    (notes : ∀ e s, happened (host.loads e s) = happened s ++ [.ran e]) (waits : Machine σ → Bool) (n : Nat) :
    (keeping happened).Alike (Evaluator.watched host waits n) (Evaluator.watched host waits n) := by
  induction n with
  | zero =>
    exact ⟨rfl, call, fun scope _ s => begins scope s, fun _ _ _ => outOfFuel, fun _ _ _ _ => outOfFuel,
      fun _ _ _ => outOfFuel⟩
  | succ n ih =>
    have notes' : ∀ e s, happened ((Evaluator.watched host waits n).host.loads e s) = happened s ++ [.ran e] := by
      rw [Evaluator.host_watched]
      exact notes
    refine ⟨rfl, call, fun scope _ s => begins scope s, fun scope _ e => ?_, fun scope _ labels s => ?_,
      fun f this args => ?_⟩
    · exact watched ((keeping happened).evalExpr ih scope e) waits
    · exact watched (evalStmt ih scope labels s) waits
    · exact watched ((keeping happened).evalCall ih (load ih notes') f this args) waits

end Keeps

/-! ### Code of hosts -/

variable (happened) in
/-- Code of a host that does anything but register modules. It may fail with any error and go on behind the errors of
other code, look at the whole machine, change heap, frames and its own state apart from the history, and ask the machine
for anything, as a host whose functions are such code again. -/
inductive HostCode : {α : Type} → Run σ α → Prop
  | pure {α : Type} (a : α) : HostCode (pure a)
  | bind {α β : Type} {x : Run σ α} {f : α → Run σ β} (first : HostCode x) (next : ∀ a, HostCode (f a)) : HostCode (x >>= f)
  | fail {α : Type} (e : RuntimeError) : HostCode (Run.fail e : Run σ α)
  | stop {α : Type} : HostCode (throw .stopped : Run σ α)
  | attempt {α : Type} {x : Run σ α} (h : HostCode x) : HostCode (Run.attempt x)
  | look {α : Type} (f : Machine σ → α) : HostCode (fun m => .ok (f m) m : Run σ α)
  | onMemory {α : Type} (f : Machine Unit → α × Machine Unit) : HostCode (Run.onMemory f)
  | log (line : String) : HostCode (Run.log line)
  | note {f : σ → σ} (quiet : ∀ s, happened (f s) = happened s) : HostCode (Run.note f)
  | ask {host : Host σ} (call : ∀ f this args, HostCode (host.call f this args))
    (begins : ∀ scope s, HostCode (host.begins scope s))
    (notes : ∀ e s, happened (host.loads e s) = happened s ++ [.ran e]) (waits : Machine σ → Bool) (n : Nat) (t : Task) :
    HostCode (t.run (Evaluator.watched host waits n))

variable (happened) in
/-- Whether the functions of a host register no modules, and what happens to modules is put down in the history. -/
structure Host.RegistersNothing (host : Host σ) : Prop where
  call : ∀ f this args, HostCode happened (host.call f this args)
  begins : ∀ scope s, HostCode happened (host.begins scope s)
  notes : ∀ e s, happened (host.loads e s) = happened s ++ [.ran e]

/-- All code of a host that registers no modules keeps machines as their histories say. -/
theorem HostCode.keeps {x : Run σ α} (code : HostCode happened x) : Keeps happened x := by
  induction code with
  | pure a => exact .pure a
  | bind _ _ first next => exact .bind first next
  | fail e => exact .fail e
  | stop => exact .stop
  | attempt _ h => exact .attempt h
  | look f => exact .look f
  | onMemory f => exact .onMemory f
  | log line => exact .log line
  | note quiet => exact .note quiet
  | @ask host _ _ notes waits n t call begins =>
    have notes' : ∀ e s, happened ((Evaluator.watched host waits n).host.loads e s) = happened s ++ [.ran e] := by
      rw [Evaluator.host_watched]
      exact notes
    exact Keeps.task (Keeps.evaluators call begins notes waits n) notes' t

/-- The evaluators of a host whose functions register no modules keep machines as their histories say. -/
theorem Host.RegistersNothing.evaluators {host : Host σ} (h : host.RegistersNothing happened) (waits : Machine σ → Bool)
    (n : Nat) : (keeping happened).Alike (Evaluator.watched host waits n) (Evaluator.watched host waits n) :=
  Keeps.evaluators (fun f this args => (h.call f this args).keeps) (fun scope s => (h.begins scope s).keeps) h.notes waits n

theorem Host.RegistersNothing.task {host : Host σ} (h : host.RegistersNothing happened) (waits : Machine σ → Bool)
    (n : Nat) (t : Task) : HostCode happened (t.run (Evaluator.watched host waits n)) :=
  .ask h.call h.begins h.notes waits n t

end ScriptCoverage.Machine
