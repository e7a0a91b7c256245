import Mathlib.Algebra.Order.Group.Multiset
import ScriptCoverage.Proofs.Coverage.Capture
import ScriptCoverage.Proofs.Machine.CallSimulation
import ScriptCoverage.Proofs.Machine.CongruentEvaluators

/-!
How far an error that cannot be caught unwinds a script. A tally beside the state of the host notes each fatal error that
the host fails with, and each one that a `try` statement drops because its last block does not end normally. An evaluator
that keeps the tally does the same as the one without it. Recorders end scripts with such errors. Main statements:
`Accounted.evaluators` — in every run the errors that were raised are those that were dropped and the one that the run
ends with; `fatal_errors_unwind` — whatever the host starts, each fatal error of the host is what the run ends with, or
was dropped by a last block that did not end normally — and `fatal_error_dropped` — a recorder fails, and the script
returns a value.
-/

namespace ScriptCoverage.Machine

open Program (Expr Stmt Block Handler)

variable {σ α β : Type}

/-! ### Tallies -/

/-- The message of an error that cannot be caught. -/
def RuntimeError.fatals : RuntimeError → Multiset String
  | .fatal message => {message}
  | _ => 0

theorem RuntimeError.fatals_of_isCatchable {e : RuntimeError} (h : e.isCatchable = true) : e.fatals = 0 := by
  cases e with
  | fatal => cases h
  | _ => rfl

/-- The errors that cannot be caught among those that a part ended with. -/
def fatalsOf : Except RuntimeError α → Multiset String
  | .ok _ => 0
  | .error e => e.fatals

/-- The state of a host, and what became of fatal errors: those that the host failed with, and those that were
dropped for another end of a statement. -/
structure Tally (σ : Type) where
  state : σ
  raised : Multiset String := 0
  dropped : Multiset String := 0

/-- A machine with an empty tally. -/
def tallied (m : Machine σ) : Machine (Tally σ) := m.withHost { state := m.host }

/-- A machine without its tally. -/
def untallied (m : Machine (Tally σ)) : Machine σ := m.withHost m.host.state

@[simp] theorem untallied_tallied (m : Machine σ) : m.tallied.untallied = m := rfl

/-- Whether the errors that were raised are those that were dropped and some that are under way. -/
def Balances (m : Machine (Tally σ)) (pending : Multiset String) : Prop := m.host.raised = m.host.dropped + pending

theorem balances_tallied (m : Machine σ) : m.tallied.Balances 0 := rfl

/-- Puts the state of a host that a run has left beside a tally, and notes errors as raised. -/
def Tally.after (t : Tally σ) (state : σ) (raised : Multiset String) : Tally σ :=
  { t with state, raised := t.raised + raised }

/-- Runs something that knows nothing of the tally, and notes the error that it fails with. -/
def Run.noting (x : Run σ α) : Run (Tally σ) α := fun m =>
  match x m.untallied with
  | .ok a n => .ok a (n.withHost (m.host.after n.host 0))
  | .error (.failed e) n => .error (.failed e) (n.withHost (m.host.after n.host e.fatals))
  | .error i n => .error i (n.withHost (m.host.after n.host 0))

/-- A host that keeps a tally. -/
def Host.tallied (host : Host σ) : Host (Tally σ) where
  call f this args := Run.noting (host.call f this args)
  begins scope s := Run.noting (host.begins scope s)
  loads e t := { t with state := host.loads e t.state }

/-! ### Evaluators that keep a tally -/

/-- Notes that the end of a part is dropped. -/
def Run.drop (r : Except RuntimeError α) : Run (Tally σ) Unit :=
  note fun t => { t with dropped := t.dropped + fatalsOf r }

namespace Evaluator

/-- Runs the last block of a statement behind what it ended with so far. -/
def lastBlock (ev : Evaluator (Tally σ)) (scope : Scope) (f : Block) (r : Except RuntimeError Completion) :
    Run (Tally σ) Completion := do
  match ← Run.attempt (ev.body scope f.body) with
  | .ok .normal => Run.resume r
  | end_ =>
    Run.drop r
    Run.resume end_

/-- Runs a statement, and notes what its last block drops. -/
def stmtTallied (ev : Evaluator (Tally σ)) (scope : Scope) (labels : List String) : Stmt → Run (Tally σ) Completion
  | .tryCatch _ b handler (some f) => do ev.lastBlock scope f (← Run.attempt (ev.guarded scope b handler))
  | s => ev.evalStmt scope labels s

/-- The evaluator for constructs that nest at most `n` deep and loops of at most `n` rounds, with a tally. -/
def tallied (host : Host σ) : Nat → Evaluator (Tally σ)
  | 0 => ofFuel host.tallied 0
  | n + 1 => { next (tallied host n) with stmt := stmtTallied (tallied host n) }

end Evaluator

/-! ### Runs that are accounted for -/

/-- Whether a run with a tally ended as the one without it, and the errors that were raised meanwhile are the one
that it ended with and those that were dropped. -/
inductive Accounts (pending : Multiset String) :
    EStateM.Result Interrupt (Machine σ) α → EStateM.Result Interrupt (Machine (Tally σ)) α → Prop
  | ok (a : α) (m : Machine (Tally σ)) (h : m.Balances pending) : Accounts pending (.ok a m.untallied) (.ok a m)
  | failed (e : RuntimeError) (m : Machine (Tally σ)) (h : m.Balances (pending + e.fatals)) :
    Accounts pending (.error (.failed e) m.untallied) (.error (.failed e) m)
  | outOfFuel (m : Machine (Tally σ)) : Accounts pending (.error .outOfFuel m.untallied) (.error .outOfFuel m)
  | stopped (m : Machine (Tally σ)) : Accounts pending (.error .stopped m.untallied) (.error .stopped m)

/-- Whether runs are accounted for that start with errors under way, of which they may settle some. -/
def Settles (owed : Multiset String) (x : Run σ α) (y : Run (Tally σ) α) : Prop :=
  ∀ pending m, m.Balances (pending + owed) → Accounts pending (x m.untallied) (y m)

/-- Whether runs are accounted for whatever errors are under way. -/
def Accounted (x : Run σ α) (y : Run (Tally σ) α) : Prop :=
  ∀ pending m, m.Balances pending → Accounts pending (x m.untallied) (y m)

namespace Accounted

/-! ### Putting runs together -/

theorem pure (a : α) : Accounted (pure a : Run σ α) (pure a) := fun _ m h => .ok a m h

theorem bind {x : Run σ α} {y : Run (Tally σ) α} {f : α → Run σ β} {g : α → Run (Tally σ) β} (hx : Accounted x y)
    (hf : ∀ a, Accounted (f a) (g a)) : Accounted (x >>= f) (y >>= g) := by
  intro pending m h
  have first := hx pending m h
  change Accounts pending (EStateM.bind x f m.untallied) (EStateM.bind y g m)
  unfold EStateM.bind
  generalize x m.untallied = r at first
  generalize y m = r' at first
  cases first with
  | ok a n hn => exact hf a pending n hn
  | failed e n hn => exact .failed e n hn
  | outOfFuel n => exact .outOfFuel n
  | stopped n => exact .stopped n

theorem fail {e : RuntimeError} (he : e.isCatchable = true) :
    Accounted (Run.fail e : Run σ α) (Run.fail e) := by
  intro pending m h
  refine .failed e m ?_
  rwa [RuntimeError.fatals_of_isCatchable he, add_zero]

/-- A step that changes a machine apart from the state of its host. -/
theorem step {x : Run σ α} {y : Run (Tally σ) α} {f : Machine (Tally σ) → α × Machine (Tally σ)}
    (hy : ∀ m, y m = .ok (f m).1 (f m).2) (hx : ∀ m : Machine (Tally σ), x m.untallied = .ok (f m).1 (f m).2.untallied)
    (hf : ∀ m, (f m).2.host.raised = m.host.raised ∧ (f m).2.host.dropped = m.host.dropped) : Accounted x y := by
  intro pending m h
  rw [hx, hy]
  refine .ok _ _ ?_
  rwa [Balances, (hf m).1, (hf m).2]

theorem onMemory (f : Machine Unit → α × Machine Unit) : Accounted (Run.onMemory f : Run σ α) (Run.onMemory f) :=
  step (f := fun m => ((f m.memory).1, { m with heap := (f m.memory).2.heap, frames := (f m.memory).2.frames }))
    (fun _ => rfl) (fun _ => rfl) fun _ => ⟨rfl, rfl⟩

theorem deeper {x : Run σ α} {y : Run (Tally σ) α} (h : Accounted x y) : Accounted (Run.deeper x) (Run.deeper y) := by
  intro pending m hm
  have first := h pending { m with depth := m.depth + 1 } hm
  have untallied : { m.untallied with depth := m.untallied.depth + 1 } =
      ({ m with depth := m.depth + 1 } : Machine (Tally σ)).untallied := rfl
  unfold Run.deeper
  dsimp only
  rw [untallied]
  generalize x ({ m with depth := m.depth + 1 } : Machine (Tally σ)).untallied = r at first
  generalize y { m with depth := m.depth + 1 } = r' at first
  cases first with
  | ok a n hn => exact .ok a { n with depth := m.depth } hn
  | failed e n hn => exact .failed e { n with depth := m.depth } hn
  | outOfFuel n => exact .outOfFuel { n with depth := m.depth }
  | stopped n => exact .stopped { n with depth := m.depth }

/-- A run that first looks at its machine. -/
theorem get_bind {f : Machine σ → Run σ α} {g : Machine (Tally σ) → Run (Tally σ) α}
    (h : ∀ pending m, Balances m pending → Accounts pending (f m.untallied m.untallied) (g m m)) :
    Accounted (get >>= f) (get >>= g) := h

/-- What goes on behind the end of a part settles the error that the part ended with. -/
theorem attempt {x : Run σ α} {y : Run (Tally σ) α} {f : Except RuntimeError α → Run σ β}
    {g : Except RuntimeError α → Run (Tally σ) β} (hx : Accounted x y) (hf : ∀ r, Settles (fatalsOf r) (f r) (g r)) :
    Accounted (Run.attempt x >>= f) (Run.attempt y >>= g) := by
  intro pending m h
  have first := hx pending m h
  change Accounts pending (EStateM.bind (Run.attempt x) f m.untallied) (EStateM.bind (Run.attempt y) g m)
  unfold EStateM.bind Run.attempt
  generalize x m.untallied = r at first
  generalize y m = r' at first
  cases first with
  | ok a n hn => exact hf (.ok a) pending n (by rwa [fatalsOf, add_zero])
  | failed e n hn => exact hf (.error e) pending n hn
  | outOfFuel n => exact .outOfFuel n
  | stopped n => exact .stopped n

theorem settles {x : Run σ α} {y : Run (Tally σ) α} (h : Accounted x y) : Settles 0 x y :=
  fun pending m hm => h pending m (by rwa [add_zero] at hm)

theorem settles_fail (e : RuntimeError) : Settles e.fatals (Run.fail e : Run σ α) (Run.fail e) :=
  fun _ m h => .failed e m h

theorem settles_resume (r : Except RuntimeError α) : Settles (fatalsOf r) (Run.resume r : Run σ α) (Run.resume r) := by
  cases r with
  | ok a => exact (Accounted.pure a).settles
  | error e => exact settles_fail e

end Accounted

/-- The accounting of fatal errors goes along with how runs are put together. -/
def accounting (σ : Type) : Congruence σ (Tally σ) where
  Rel := Accounted
  pure := .pure
  bind := .bind
  fail := .fail
  outOfFuel := fun _ m _ => .outOfFuel m
  onMemory f _ := .onMemory f
  bindName _ _ _ _ := .onMemory _
  openFrame kind bindings _ behind := by
    rw [Run.openFrame_bind, Run.openFrame_bind]
    exact .bind (.onMemory _) fun r => behind r trivial trivial
  log line := .step (f := fun m => ((), { m with console := m.console.push line })) (fun _ => rfl) (fun _ => rfl)
    fun _ => ⟨rfl, rfl⟩
  onRegistry f := .step (f := fun m => (f m.registry, m)) (fun _ => rfl) (fun _ => rfl) fun _ => ⟨rfl, rfl⟩
  level h := by
    intro pending m hm
    change Accounts pending ((if maxDepth ≤ m.depth then Run.fail .stackOverflow else Run.deeper _) m.untallied)
      ((if maxDepth ≤ m.depth then Run.fail .stackOverflow else Run.deeper _) m)
    split
    · exact Accounted.fail rfl pending m hm
    · exact h.deeper pending m hm
  attempt hx ok caught uncaught := by
    refine hx.attempt fun r => ?_
    cases r with
    | ok a => exact (ok a).settles
    | error e =>
      cases he : e.isCatchable with
      | true =>
        rw [fatalsOf, RuntimeError.fatals_of_isCatchable he]
        exact (caught e he).settles
      | false =>
        rw [(uncaught e he).1, (uncaught e he).2]
        exact Accounted.settles_fail e

instance (σ : Type) : (accounting σ).Everywhere := ⟨fun _ => trivial⟩

instance (σ : Type) : (accounting σ).OwnsAll := ⟨fun _ => trivial⟩

/-! ### Hosts, last blocks and modules -/

namespace Accounted

theorem noting (x : Run σ α) : Accounted x (Run.noting x) := by
  intro pending m h
  have same (n : Machine σ) (e : Multiset String) : (n.withHost (m.host.after n.host e)).untallied = n := rfl
  have balances (n : Machine σ) (e : Multiset String) :
      (n.withHost (m.host.after n.host e)).Balances (pending + e) := by
    change m.host.raised + e = m.host.dropped + (pending + e)
    rw [← add_assoc]
    exact congrArg (· + e) h
  unfold Run.noting
  cases x m.untallied with
  | ok a n => exact .ok a (n.withHost (m.host.after n.host 0)) (by simpa using balances n 0)
  | error i n =>
    cases i with
    | failed e => exact .failed e (n.withHost (m.host.after n.host e.fatals)) (balances n e.fatals)
    | outOfFuel => exact .outOfFuel (n.withHost (m.host.after n.host 0))
    | stopped => exact .stopped (n.withHost (m.host.after n.host 0))

/-- A machine on which some errors that are under way are noted as dropped. -/
theorem balances_drop {m : Machine (Tally σ)} {pending owed : Multiset String} (h : m.Balances (pending + owed)) :
    Balances { m with host := { m.host with dropped := m.host.dropped + owed } } pending := by
  change m.host.raised = m.host.dropped + owed + pending
  rw [add_assoc, add_comm owed]
  exact h

section Constructs

variable {ev : Evaluator σ} {ev' : Evaluator (Tally σ)} (hp : (accounting σ).Alike ev ev')

include hp

/-- A last block lets go of the error that is under way if it ends normally, and drops it otherwise. -/
theorem settles_lastBlock (scope : Scope) (f : Block) (r : Except RuntimeError Completion) :
    Settles (fatalsOf r) (do
      match ← ev.body scope f.body with
      | .normal => Run.resume r
      | c => return c) (ev'.lastBlock scope f r) := by
  intro pending m h
  have first := (accounting σ).body hp scope f.body _ m h
  unfold Evaluator.lastBlock
  change Accounts pending (EStateM.bind (ev.body scope f.body) _ m.untallied)
    (EStateM.bind (Run.attempt (ev'.body scope f.body)) _ m)
  unfold EStateM.bind Run.attempt
  generalize ev.body scope f.body m.untallied = x at first
  generalize ev'.body scope f.body m = y at first
  cases first with
  | ok c n hn =>
    cases c with
    | normal => exact settles_resume r pending n hn
    -- any other end of the last block drops what was waiting behind it
    | _ => exact .ok _ { n with host := { n.host with dropped := n.host.dropped + fatalsOf r } } (balances_drop hn)
  | failed e n hn =>
    rw [add_assoc, add_comm (fatalsOf r), ← add_assoc] at hn
    exact .failed e { n with host := { n.host with dropped := n.host.dropped + fatalsOf r } } (balances_drop hn)
  | outOfFuel n => exact .outOfFuel n
  | stopped n => exact .stopped n

theorem stmtTallied (scope : Scope) (labels : List String) (s : Stmt) :
    Accounted (ev.evalStmt scope labels s) (ev'.stmtTallied scope labels s) := by
  unfold Evaluator.stmtTallied
  split
  · next span b handler f =>
    exact ((accounting σ).guarded hp scope b handler).attempt fun r => settles_lastBlock hp scope f r
  · next other =>
    exact (accounting σ).evalStmt hp scope labels s fun span b h f hs => absurd hs (other span b h f)

variable (loads : ev'.host.loads = fun e t => { t with state := ev.host.loads e t.state })

include loads

omit hp in
theorem noteLoads (e : ModuleEvent) : Accounted (Run.note (ev.host.loads e)) (Run.note (ev'.host.loads e)) := by
  rw [loads]
  exact .step (f := fun m => ((), { m with host := { m.host with state := ev.host.loads e m.host.state } }))
    (fun _ => rfl) (fun _ => rfl) fun _ => ⟨rfl, rfl⟩

/-- A module that fails is taken out of those that are loaded, and then fails with the same error. -/
theorem runModule (key : String) (factory : Module.Factory) (program : Program) :
    Accounted (ev.runModule key factory program) (ev'.runModule key factory program) := by
  have store (t : Table ObjectRef → Table ObjectRef) :
      Accounted (modify fun m => { m with loaded := t m.loaded } : Run σ Unit)
        (modify fun m => { m with loaded := t m.loaded }) :=
    .step (f := fun m => ((), { m with loaded := t m.loaded })) (fun _ => rfl) (fun _ => rfl) fun _ => ⟨rfl, rfl⟩
  refine .bind ((accounting σ).emptyObject) fun exports => .bind ((accounting σ).add _) fun r => ?_
  refine .bind (store fun t => t.put key r) fun _ => .bind ((accounting σ).newFunction _) fun require => ?_
  refine .bind (noteLoads loads (.started key)) fun _ => ?_
  refine .attempt ((accounting σ).runFactory hp factory.params program exports _) fun result => ?_
  cases result with
  | ok _ => exact (Accounted.bind (noteLoads loads (.finished key)) fun _ => (accounting σ).see _).settles
  | error e =>
    dsimp only
    rw [loads]
    intro pending m h
    exact .failed e { m with
      loaded := m.loaded.erase key
      host := { m.host with state := ev.host.loads (.failed key) m.host.state } } h

theorem load (key : String) : Accounted (ev.load key) (ev'.load key) := by
  refine .get_bind fun pending m h => ?_
  have loaded : m.untallied.loaded = m.loaded := rfl
  have registry : m.untallied.registry = m.registry := rfl
  rw [loaded, registry]
  cases m.loaded.get? key with
  | some r => exact Accounted.pure _ pending m h
  | none =>
    cases m.registry.get? key with
    | none => exact Accounted.fail rfl pending m h
    | some factory =>
      dsimp only
      cases factory.compile with
      | ok program => exact runModule hp loads key factory program pending m h
      | error cause => exact Accounted.fail rfl pending m h

end Constructs

/-! ### Whole evaluators -/

theorem host_tallied (host : Host σ) (n : Nat) : (Evaluator.tallied host n).host = host.tallied := by
  induction n with
  | zero => rfl
  | succ n ih => exact ih

theorem loads_tallied (host : Host σ) (n : Nat) : (Evaluator.tallied host n).host.loads =
    fun e t => { t with state := (Evaluator.ofFuel host n).host.loads e t.state } := by
  rw [host_tallied, Simulation.host_ofFuel]
  rfl

/-- A host and its tally make evaluators that do the same. -/
theorem evaluators (host : Host σ) (n : Nat) :
    (accounting σ).Alike (Evaluator.ofFuel host n) (Evaluator.tallied host n) := by
  induction n with
  | zero =>
    exact ⟨rfl, fun f this args => .noting _, fun scope _ s => .noting _, fun _ _ _ _ m _ => .outOfFuel m,
      fun _ _ _ _ _ m _ => .outOfFuel m, fun _ _ _ _ m _ => .outOfFuel m⟩
  | succ n ih =>
    have begins := ih.begins
    have hostCall := ih.hostCall
    rw [Simulation.host_ofFuel] at begins hostCall
    refine ⟨?_, hostCall, begins, fun scope _ e => (accounting σ).evalExpr ih scope e,
      fun scope _ labels s => stmtTallied ih scope labels s, (accounting σ).evalCall ih (load ih (loads_tallied host n))⟩
    change n + 1 = (Evaluator.tallied host n).fuel + 1
    rw [← ih.fuel, Simulation.fuel_ofFuel]

theorem require (host : Host σ) (n : Nat) (origin : Option String) (path : String) :
    Accounted ((Evaluator.ofFuel host n).require origin path) ((Evaluator.tallied host n).require origin path) :=
  (accounting σ).require (load (evaluators host n) (loads_tallied host n)) origin path

end Accounted

/-! ### What the host starts -/

/-- What the host of a machine starts: the text of a script, or something else that it asks of the machine. -/
inductive Entry
  | eval (source : String)
  | request (q : Request)

def Entry.run (ev : Evaluator σ) : Entry → Run σ Value
  | .eval source => ev.run source
  | .request q => q.run ev

theorem Entry.accounted (host : Host σ) (n : Nat) (q : Entry) :
    Accounted (q.run (Evaluator.ofFuel host n)) (q.run (Evaluator.tallied host n)) := by
  have hp := Accounted.evaluators host n
  cases q with
  | eval source => exact (accounting σ).run hp source
  | request q =>
    cases q with
    | require origin path => exact .require host n origin path
    | call f this args => exact hp.call f this args

/-! ### Ends -/

/-- The end of a run without its tally. -/
def withoutTally : EStateM.Result Interrupt (Machine (Tally σ)) α → EStateM.Result Interrupt (Machine σ) α
  | .ok a m => .ok a m.untallied
  | .error i m => .error i m.untallied

/-- Whether a run ended as its tally says: with one more fatal error raised than dropped if the run ended with that
error, and with as many otherwise. -/
def EndsAsTallied : EStateM.Result Interrupt (Machine (Tally σ)) α → Prop
  | .ok _ m => m.host.raised = m.host.dropped
  | .error (.failed e) m => m.host.raised = m.host.dropped + e.fatals
  | .error _ _ => True

theorem Accounts.ends {r : EStateM.Result Interrupt (Machine σ) α} {r' : EStateM.Result Interrupt (Machine (Tally σ)) α}
    (h : Accounts 0 r r') : withoutTally r' = r ∧ EndsAsTallied r' := by
  cases h with
  | ok a m h => exact ⟨rfl, h.trans (add_zero _)⟩
  | failed e m h => exact ⟨rfl, h.trans (by rw [zero_add])⟩
  | outOfFuel m => exact ⟨rfl, trivial⟩
  | stopped m => exact ⟨rfl, trivial⟩

theorem RuntimeError.eq_of_mem_fatals {e : RuntimeError} {s : String} (h : s ∈ e.fatals) : e = .fatal s := by
  cases e with
  | fatal message => rw [Multiset.mem_singleton.1 h]
  | _ => cases Multiset.notMem_zero s h

/-- Fatal errors unwind whole scripts, save for last blocks. A run is what it is with a tally beside it, and ends as
its tally says. So where no last block drops one, a run of which the host failed with a fatal error has no value and
fails with that error. -/
theorem fatal_errors_unwind (host : Host σ) (n : Nat) (q : Entry) (m : Machine σ) :
    withoutTally (q.run (Evaluator.tallied host n) m.tallied) = q.run (Evaluator.ofFuel host n) m ∧
      EndsAsTallied (q.run (Evaluator.tallied host n) m.tallied) ∧
      (∀ v m', q.run (Evaluator.tallied host n) m.tallied = .ok v m' → m'.host.dropped = 0 → m'.host.raised = 0) ∧
      ∀ e m', q.run (Evaluator.tallied host n) m.tallied = .error (.failed e) m' → m'.host.dropped = 0 →
        ∀ s ∈ m'.host.raised, e = .fatal s := by
  obtain ⟨same, tallied⟩ := (q.accounted host n 0 m.tallied (balances_tallied m)).ends
  refine ⟨same, tallied, fun v m' run none => ?_, fun e m' run none s hs => ?_⟩
  · rw [run] at tallied
    exact tallied.trans none
  · rw [run] at tallied
    have balance : m'.host.raised = m'.host.dropped + e.fatals := tallied
    rw [balance, none, zero_add] at hs
    exact RuntimeError.eq_of_mem_fatals hs

/-- Whether a run succeeded with a value, and something holds of the machine that it left. -/
def returns (v : Value) (p : Machine σ → Bool) : EStateM.Result Interrupt (Machine σ) Value → Bool
  | .ok w m => w = v && p m
  | .error _ _ => false

/-- A function whose last block returns drops the error of a recorder that was called without arguments. -/
theorem fatal_error_dropped :
    let q := Entry.eval "(function() \x7b try \x7b cov(); \x7d finally \x7b return true; \x7d \x7d)()"
    returns (.bool true) (fun _ => true)
        (q.run (Evaluator.ofFuel (Recorder.host NestedEmpty.host) 30) NestedEmpty.machine) = true ∧
      returns (.bool true) (fun m => m.host.raised.card = 1)
        (q.run (Evaluator.tallied (Recorder.host NestedEmpty.host) 30) NestedEmpty.machine.tallied) = true := by
  decide +kernel

end ScriptCoverage.Machine
