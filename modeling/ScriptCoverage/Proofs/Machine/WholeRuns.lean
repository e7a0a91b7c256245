import ScriptCoverage.Proofs.Machine.CongruentEvaluators
import ScriptCoverage.Proofs.Machine.Moments

/-!
Relations that go along with whole runs. `Congruence.Thorough` asks of a congruence that it goes along with all errors
and with the modules that are loaded; then hosts that are alike make evaluators that are (`Thorough.evaluators`), and
whatever hosts ask for is done in related ways (`Thorough.task`). `OutsideCode` is the code of hosts, of whose own
steps it is said how they may change a machine; a congruence that tolerates these steps tolerates the code
(`Tolerates.code`).
-/

namespace ScriptCoverage.Machine

open Program (Block Handler Stmt)

variable {σ τ α β : Type}

/-! ### Loading in steps -/

/-- A run that reads and changes the modules that are loaded, and nothing else. -/
def Run.onLoaded (f : Table ObjectRef → α × Table ObjectRef) : Run σ α := fun m =>
  .ok (f m.loaded).1 { m with loaded := (f m.loaded).2 }

/-- Looking at the modules that are registered. -/
def Run.registered (key : String) : Run σ (Option Module.Factory) := fun m => .ok (m.registry.get? key) m

/-- Loading looks for the module among those that are loaded, and only then among those that are registered. -/
theorem Evaluator.load_eq (ev : Evaluator σ) (key : String) : ev.load key = (do
    match ← Run.onLoaded fun t => (t.get? key, t) with
    | some r => Run.see (exportsOf · r)
    | none =>
      match ← Run.registered key with
      | none => Run.fail (.moduleNotFound key rootName)
      | some factory =>
        match factory.compile with
        | .ok program => ev.runModule key factory program
        | .error cause => Run.fail (.badSource key cause)) := by
  funext m
  change _ = EStateM.bind _ _ m
  unfold EStateM.bind Run.onLoaded
  dsimp only
  rw [Evaluator.load_apply]
  cases m.loaded.get? key with
  | some r => rfl
  | none =>
    change _ = EStateM.bind _ _ m
    unfold EStateM.bind Run.registered
    dsimp only
    cases m.registry.get? key with
    | none => rfl
    | some factory => rfl

/-! ### Thorough congruences -/

namespace Congruence

/-- Whether a relation goes along with all errors, and with the modules that are loaded. -/
structure Thorough (L : Congruence σ τ) : Prop where
  fail {α : Type} (e : RuntimeError) : L.Rel (Run.fail e : Run σ α) (Run.fail e)
  attempt {α : Type} {x : Run σ α} {y : Run τ α} : L.Rel x y → L.Rel (Run.attempt x) (Run.attempt y)
  onLoaded {α : Type} (f : Table ObjectRef → α × Table ObjectRef) : L.Rel (Run.onLoaded f) (Run.onLoaded f)

namespace Thorough

variable {L : Congruence σ τ} (T : L.Thorough) {ev : Evaluator σ} {ev' : Evaluator τ}

include T

theorem resume (r : Except RuntimeError α) : L.Rel (Run.resume r : Run σ α) (Run.resume r) := by
  cases r with
  | ok a => exact L.pure a
  | error e => exact T.fail e

section Constructs

variable (hp : L.Alike ev ev')

include hp

/-- Whatever comes first, the last block of a statement is run behind it and decides how the statement ends. -/
theorem tryCatch (scope : Scope) [L.In scope] (b : Block) (handler : Option Handler) (f : Block) :
    L.Rel (ev.tryCatch scope b handler (some f)) (ev'.tryCatch scope b handler (some f)) := by
  refine L.bind (T.attempt (L.guarded hp scope b handler)) fun result => L.bind (L.body hp scope f.body) fun c => ?_
  cases c with
  | normal => exact T.resume result
  | returned | broke | continued => exact L.pure _

theorem stmtBy {w : Writer σ} {w' : Writer τ} (hw : L.Writes w w') (scope : Scope) [L.In scope] (labels : List String)
    (s : Stmt) : L.Rel (ev.stmtBy w scope labels s) (ev'.stmtBy w' scope labels s) :=
  L.stmtBy hp hw scope labels s fun _ b handler f _ => T.tryCatch hp scope b handler f

theorem evalStmt [L.OwnsAll] (scope : Scope) [L.In scope] (labels : List String) (s : Stmt) :
    L.Rel (ev.evalStmt scope labels s) (ev'.evalStmt scope labels s) :=
  L.evalStmt hp scope labels s fun _ b handler f _ => T.tryCatch hp scope b handler f

variable (loads : ∀ e, L.Rel (Run.note (ev.host.loads e)) (Run.note (ev'.host.loads e)))

include loads

theorem runModule [L.In globalScope] (key : String) (factory : Module.Factory) (program : Program) :
    L.Rel (ev.runModule key factory program) (ev'.runModule key factory program) := by
  refine L.bind L.emptyObject fun exports => L.bind (L.add _) fun r => ?_
  refine L.bind (T.onLoaded fun t => ((), t.put key r)) fun _ => L.bind (L.newFunction _) fun require => ?_
  refine L.bind (loads (.started key)) fun _ => ?_
  refine L.bind (T.attempt (L.runFactory hp factory.params program exports _)) fun result => ?_
  cases result with
  | ok _ => exact L.bind (loads (.finished key)) fun _ => L.see _
  | error e =>
    exact L.bind (T.onLoaded fun t => ((), t.erase key)) fun _ => L.bind (loads (.failed key)) fun _ => T.fail e

theorem load [L.In globalScope] (key : String) : L.Rel (ev.load key) (ev'.load key) := by
  rw [Evaluator.load_eq, Evaluator.load_eq]
  refine L.bind (T.onLoaded _) fun loaded => ?_
  cases loaded with
  | some r => exact L.see _
  | none =>
    refine L.bind (L.onRegistry (·.get? key)) fun registered => ?_
    cases registered with
    | none => exact L.fail rfl
    | some factory =>
      dsimp only
      cases factory.compile with
      | ok program => exact T.runModule hp loads key factory program
      | error cause => exact L.fail rfl

/-- What hosts ask for is done in related ways. -/
theorem task [L.In globalScope] [L.Owns globalScope] (t : Task) : L.Rel (t.run ev) (t.run ev') := by
  cases t with
  | eval source => exact L.run hp source
  | require origin path => exact L.require (T.load hp loads) origin path
  | call f this args => exact hp.call f this args
  | construct f args => exact L.construct hp f args
  | get v key => exact L.getProperty hp.call v key
  | set v key new => exact L.bind (L.setProperty hp.call v key new) fun _ => L.pure _

end Constructs

/-- Hosts that are alike make evaluators that are, with watchers that make no difference. -/
theorem evaluators [L.Everywhere] [L.OwnsAll] {host : Host σ} {host' : Host τ} {waits : Machine σ → Bool}
    {waits' : Machine τ → Bool}
    (call : ∀ f this args, L.Rel (host.call f this args) (host'.call f this args))
    (begins : ∀ scope s, L.Rel (host.begins scope s) (host'.begins scope s))
    (loads : ∀ e, L.Rel (Run.note (host.loads e)) (Run.note (host'.loads e)))
    (watched : ∀ {α : Type} {x : Run σ α} {y : Run τ α}, L.Rel x y → L.Rel (Run.watched waits x) (Run.watched waits' y))
    (n : Nat) : L.Alike (Evaluator.watched host waits n) (Evaluator.watched host' waits' n) := by
  induction n with
  | zero =>
    exact ⟨rfl, call, fun scope _ s => begins scope s, fun _ _ _ => L.outOfFuel, fun _ _ _ _ => L.outOfFuel,
      fun _ _ _ => L.outOfFuel⟩
  | succ n ih =>
    have loads' : ∀ e, L.Rel (Run.note ((Evaluator.watched host waits n).host.loads e))
        (Run.note ((Evaluator.watched host' waits' n).host.loads e)) := by
      rw [Evaluator.host_watched, Evaluator.host_watched]
      exact loads
    refine ⟨rfl, call, fun scope _ s => begins scope s, fun scope _ e => ?_, fun scope _ labels s => ?_,
      fun f this args => ?_⟩
    · exact watched (L.evalExpr ih scope e)
    · exact watched (T.evalStmt ih scope labels s)
    · exact watched (L.evalCall ih (T.load ih loads') f this args)

end Thorough

end Congruence

/-! ### Code of hosts -/

/-- Code outside of a machine, of whose own steps it is said how they may change the machine. It may fail with any error
and go on behind the errors of other code, and ask the machine for anything, as a host whose functions are such code
again. What it asks for runs with one of some watchers. -/
inductive OutsideCode (may : Machine σ → Machine σ → Prop) (watchers : (Machine σ → Bool) → Prop) :
    {α : Type} → Run σ α → Prop
  | step {α : Type} {x : Run σ α} (h : ∀ m, ∃ a m', x m = .ok a m' ∧ may m m') : OutsideCode may watchers x
  | bind {α β : Type} {x : Run σ α} {f : α → Run σ β} (first : OutsideCode may watchers x)
    (next : ∀ a, OutsideCode may watchers (f a)) : OutsideCode may watchers (x >>= f)
  | fail {α : Type} (e : RuntimeError) : OutsideCode may watchers (Run.fail e : Run σ α)
  | attempt {α : Type} {x : Run σ α} (h : OutsideCode may watchers x) : OutsideCode may watchers (Run.attempt x)
  | ask {host : Host σ} (call : ∀ f this args, OutsideCode may watchers (host.call f this args))
    (begins : ∀ scope s, OutsideCode may watchers (host.begins scope s))
    (loads : ∀ e m, may m { m with host := host.loads e m.host }) {waits : Machine σ → Bool} (waiting : watchers waits)
    (n : Nat) (t : Task) : OutsideCode may watchers (t.run (Evaluator.watched host waits n))

/-- Whether the functions of a host, and whatever it does beside a run, are such code. -/
structure Host.Outside (host : Host σ) (may : Machine σ → Machine σ → Prop) (watchers : (Machine σ → Bool) → Prop) :
    Prop where
  call : ∀ f this args, OutsideCode may watchers (host.call f this args)
  begins : ∀ scope s, OutsideCode may watchers (host.begins scope s)
  loads : ∀ e m, may m { m with host := host.loads e m.host }

namespace Congruence

/-- Whether such code goes along with itself. -/
structure Tolerates (L : Congruence σ σ) (may : Machine σ → Machine σ → Prop) (watchers : (Machine σ → Bool) → Prop) :
    Prop where
  thorough : L.Thorough
  step {α : Type} {x : Run σ α} : (∀ m, ∃ a m', x m = .ok a m' ∧ may m m') → L.Rel x x
  watched {α : Type} {x y : Run σ α} {waits : Machine σ → Bool} :
    watchers waits → L.Rel x y → L.Rel (Run.watched waits x) (Run.watched waits y)

namespace Tolerates

variable {L : Congruence σ σ} {may : Machine σ → Machine σ → Prop} {watchers : (Machine σ → Bool) → Prop}
  (T : L.Tolerates may watchers)

include T

theorem loads {host : Host σ} (loads : ∀ e m, may m { m with host := host.loads e m.host }) (e : ModuleEvent) :
    L.Rel (Run.note (host.loads e)) (Run.note (host.loads e)) := T.step fun m => ⟨(), _, rfl, loads e m⟩

variable [L.Everywhere] [L.OwnsAll]

theorem code {x : Run σ α} (h : OutsideCode may watchers x) : L.Rel x x := by
  induction h with
  | step h => exact T.step h
  | bind _ _ first next => exact L.bind first next
  | fail e => exact T.thorough.fail e
  | attempt _ h => exact T.thorough.attempt h
  | ask _ _ loads waiting n t call begins =>
    refine T.thorough.task (T.thorough.evaluators call begins (T.loads loads) (T.watched waiting) n) ?_ t
    rw [Evaluator.host_watched]
    exact T.loads loads

variable {host : Host σ} (outside : host.Outside may watchers)

include outside

/-- Evaluators with such a host, and with watchers between which the relation makes no difference. -/
theorem evaluators {waits waits' : Machine σ → Bool}
    (watched : ∀ {α : Type} {x y : Run σ α}, L.Rel x y → L.Rel (Run.watched waits x) (Run.watched waits' y)) (n : Nat) :
    L.Alike (Evaluator.watched host waits n) (Evaluator.watched host waits' n) :=
  T.thorough.evaluators (fun f this args => T.code (outside.call f this args))
    (fun scope s => T.code (outside.begins scope s)) (T.loads outside.loads) watched n

theorem task {waits waits' : Machine σ → Bool}
    (watched : ∀ {α : Type} {x y : Run σ α}, L.Rel x y → L.Rel (Run.watched waits x) (Run.watched waits' y)) (n : Nat)
    (t : Task) : L.Rel (t.run (Evaluator.watched host waits n)) (t.run (Evaluator.watched host waits' n)) := by
  refine T.thorough.task (T.evaluators outside watched n) ?_ t
  rw [Evaluator.host_watched, Evaluator.host_watched]
  exact T.loads outside.loads

end Tolerates

end Congruence

end ScriptCoverage.Machine
