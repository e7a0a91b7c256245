import ScriptCoverage.Machine.Evaluate

/-!
The moments of a run. `Task` is what a host can ask of a machine. An evaluator that is watched stops where a part of a
construct begins or ends and the machine is one that its watcher waits for; if the watcher waits for none, then it does
the same as an evaluator without one (`Evaluator.watched_never`). So what holds of the machines that watched runs end
on, in whatever way they end, holds at every moment of a run.
-/

namespace ScriptCoverage.Machine

variable {σ α : Type}

/-! ### What hosts ask for -/

/-- What the host of a machine can ask of it: to run a text, to load a module, to call a value or apply `new` to it, and
to read or write a property. -/
inductive Task
  | eval (source : String)
  | require (origin : Option String) (path : String)
  | call (f this : Value) (args : List Value)
  | construct (f : Value) (args : List Value)
  | get (v : Value) (key : String)
  | set (v : Value) (key : String) (new : Value)

def Task.run (ev : Evaluator σ) : Task → Run σ Value
  | eval source => ev.run source
  | require origin path => ev.require origin path
  | call f this args => ev.call f this args
  | construct f args => ev.construct f args
  | get v key => Run.getProperty ev.call v key
  | set v key new => do
    Run.setProperty ev.call v key new
    return .undefined

/-- The machine that a run has left. -/
def machineOf : EStateM.Result Interrupt (Machine σ) α → Machine σ
  | .ok _ m | .error _ m => m

/-- The value of a run that has one. -/
def value? : EStateM.Result Interrupt (Machine σ) α → Option α
  | .ok a _ => some a
  | .error _ _ => none

/-! ### Watchers -/

namespace Run

/-- A look at the heap changes nothing. -/
theorem see_bind {β : Type} (f : Heap → α) (next : α → Run σ β) (m : Machine σ) :
    (Run.see f >>= next) m = next (f m.heap) m := rfl

/-- A run of two parts has a value if both have. -/
theorem bind_eq_ok_iff {β : Type} {x : Run σ α} {f : α → Run σ β} {m m' : Machine σ} {b : β} :
    (x >>= f) m = .ok b m' ↔ ∃ a m₁, x m = .ok a m₁ ∧ f a m₁ = .ok b m' := by
  change EStateM.bind x f m = _ ↔ _
  rw [EStateM.bind]
  constructor
  · intro h
    split at h
    · next a m₁ first => exact ⟨a, m₁, first, h⟩
    · cases h
  · rintro ⟨a, m₁, first, second⟩
    rw [first]
    exact second

/-- Stops if the machine is one that a watcher waits for. -/
def watch (waits : Machine σ → Bool) : Run σ Unit := fun m => if waits m then .error .stopped m else .ok () m

/-- Runs something with a watcher at its beginning and at its end. -/
def watched (waits : Machine σ → Bool) (x : Run σ α) : Run σ α := do
  watch waits
  let a ← x
  watch waits
  return a

theorem watched_never (x : Run σ α) : watched (fun _ => false) x = x := by
  funext m
  change EStateM.bind x _ m = x m
  unfold EStateM.bind
  cases x m with
  | ok a n => rfl
  | error i n => rfl

end Run

namespace Evaluator

/-- The evaluator for constructs that nest at most `n` deep and loops of at most `n` rounds, with a watcher at the
beginning and at the end of each part. -/
def watched (host : Host σ) (waits : Machine σ → Bool) : Nat → Evaluator σ
  | 0 => ofFuel host 0
  | n + 1 =>
    { fuel := n + 1
      host
      expr := fun scope e => Run.watched waits ((watched host waits n).evalExpr scope e)
      stmt := fun scope labels s => Run.watched waits ((watched host waits n).evalStmt scope labels s)
      call := fun f this args => Run.watched waits ((watched host waits n).evalCall f this args) }

variable (host : Host σ) (waits : Machine σ → Bool)

@[simp]
theorem host_watched (n : Nat) : (watched host waits n).host = host := by cases n <;> rfl

/-- A watcher that waits for nothing changes nothing. -/
theorem watched_never (n : Nat) : watched host (fun _ => false) n = ofFuel host n := by
  induction n with
  | zero => rfl
  | succ n ih =>
    rw [watched, ofFuel, ih]
    simp only [Run.watched_never]
    rfl

end Evaluator

end ScriptCoverage.Machine
