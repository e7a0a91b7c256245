import ScriptCoverage.Machine.Initial
import ScriptCoverage.Proofs.Machine.Steadiness

/-!
The depth of a machine, which counts the script functions that are running. Main statement: `depth_balanced` — however a
run ends, the depth is behind it what it was before, on the way it stays within its bounds, and a script function is
entered iff there is a level left. So there are as many levels left behind a run as before it.
-/

namespace ScriptCoverage.Machine

variable {σ α : Type}

/-! ### Levels -/

/-- Runs something one level deeper if there is a level left. -/
def Run.level (x : Run σ α) : Run σ α := do
  if maxDepth ≤ (← get).depth then Run.fail .stackOverflow else Run.deeper x

/-- Opens a number of levels, each one inside of the one before. -/
def Run.levels : Nat → Run σ Unit
  | 0 => return
  | k + 1 => Run.level (Run.levels k)

/-- Runs the body of a function in the scope of a call. -/
def Evaluator.bodyValue (ev : Evaluator σ) (decl : Program.Func) (inner : Scope) : Run σ Value := do
  match ← ev.runBody inner decl with
  | .returned v => return v
  | _ => return .undefined

/-- What the call of a script function does one level deeper. -/
def Evaluator.activation (ev : Evaluator σ) (f this : Value) (args : List Value) (decl : Program.Func) (scope : Scope) :
    Run σ Value := do
  let inner ← Run.enter f this args decl scope
  Run.hoist inner (Program.Declared.ofBody decl.body)
  ev.bodyValue decl inner

theorem Evaluator.callScript_eq (ev : Evaluator σ) (f this : Value) (args : List Value) (decl : Program.Func)
    (scope : Scope) : ev.callScript f this args decl scope = Run.level (ev.activation f this args decl scope) := rfl

theorem Evaluator.call_script (host : Host σ) (n : Nat) {m : Machine σ} {r : FunctionRef} {decl : Program.Func}
    {scope : Scope} (script : (m.heap.function r).kind = .script decl scope) (this : Value) (args : List Value) :
    (Evaluator.ofFuel host (n + 1)).call (.function r) this args m =
      (Evaluator.ofFuel host n).callScript (.function r) this args decl scope m := by
  have look (f : Function → Run σ Value) : (Run.see (·.function r) >>= f) m = f (m.heap.function r) m := rfl
  change (Evaluator.ofFuel host n).evalCall (.function r) this args m = _
  rw [Evaluator.evalCall, look, script]

theorem Run.level_apply (x : Run σ α) (m : Machine σ) :
    Run.level x m = if m.depth < maxDepth then Run.deeper x m else .error (.failed .stackOverflow) m := by
  change (if maxDepth ≤ m.depth then Run.fail .stackOverflow else Run.deeper x) m = _
  by_cases full : maxDepth ≤ m.depth
  · rw [if_pos full, if_neg (Nat.not_lt_of_le full)]
    rfl
  · rw [if_neg full, if_pos (Nat.lt_of_not_le full)]

/-- Levels can be opened up to the greatest depth, and no deeper. -/
theorem Run.levels_apply (k : Nat) (m : Machine σ) :
    Run.levels k m = if k ≤ maxDepth - m.depth then .ok () m else .error (.failed .stackOverflow) m := by
  induction k generalizing m with
  | zero => rfl
  | succ k ih =>
    rw [Run.levels, Run.level_apply]
    unfold Run.deeper
    dsimp only
    rw [ih]
    by_cases room : m.depth < maxDepth
    · rw [if_pos room]
      by_cases fits : k + 1 ≤ maxDepth - m.depth
      · rw [if_pos fits, if_pos (show k ≤ maxDepth - (m.depth + 1) by omega)]
      · rw [if_neg fits, if_neg (show ¬ k ≤ maxDepth - (m.depth + 1) by omega)]
    · rw [if_neg room, if_neg (by omega)]

/-! ### The depth during a run -/

/-- Whether the depth has left the bounds of a run that starts at some depth. -/
def strays (start : Nat) (m : Machine σ) : Bool := m.depth < start || max start maxDepth < m.depth

/-- Changes that leave the depth as it is, on machines within the bounds of a run. -/
def keepingDepth (start : Nat) : Steadiness σ where
  Holds m := m.strays start = false
  Small m m' := m'.depth = m.depth
  Stops := False
  refl _ := rfl
  trans first second := second.trans first
  holds on same := by rwa [strays, same]
  memory _ _ _ := rfl
  bind _ _ _ _ _ := rfl
  aside _ _ _ := rfl
  opens _ _ := trivial
  fresh _ := trivial
  enters {m} on room := by
    simp only [strays, Bool.or_eq_false_iff, decide_eq_false_iff_not] at on ⊢
    omega
  leaves _ := rfl

instance (start : Nat) : (keepingDepth start : Steadiness σ).congruence.Everywhere := ⟨fun _ => trivial⟩

instance (start : Nat) : (keepingDepth start : Steadiness σ).congruence.OwnsAll := ⟨fun _ => trivial⟩

/-- The depth is balanced. A run ends at the depth at which it started, with whatever value or error, and behind it
there are as many levels left as before. On the way the depth is never less than at the start, nor greater than the
greatest depth (or than at the start, if that was greater): one who watches the run for such a moment, and all runs
that the host's functions ask for, waits in vain. The call of a script function enters it iff the depth is less than
the greatest one; otherwise it fails and changes nothing. -/
theorem depth_balanced (host : Host σ) (m : Machine σ)
    (outside : host.Outside (fun m m' => m'.depth = m.depth) fun waits => ∀ m', waits m' → m'.strays m.depth)
    (n : Nat) (t : Task) :
    let run := t.run (Evaluator.ofFuel host n) m
    ((machineOf run).depth = m.depth ∧
      ∀ k, Run.levels k (machineOf run) = .ok () (machineOf run) ↔ Run.levels k m = .ok () m) ∧
    (t.run (Evaluator.watched host (strays m.depth) n) m = run ∧ ∀ m', run ≠ .error .stopped m') ∧
    (∀ r decl scope this args, (m.heap.function r).kind = .script decl scope →
      (Evaluator.ofFuel host (n + 1)).call (.function r) this args m =
        if m.depth < maxDepth then
          Run.deeper ((Evaluator.ofFuel host n).activation (.function r) this args decl scope) m
        else .error (.failed .stackOverflow) m) := by
  intro run
  have inBounds : m.strays m.depth = false := by
    rw [strays, Bool.or_eq_false_iff, decide_eq_false_iff_not, decide_eq_false_iff_not]
    omega
  have tolerates : (keepingDepth m.depth).congruence.Tolerates (fun m m' => m'.depth = m.depth)
      fun waits : Machine σ → Bool => ∀ m', waits m' → m'.strays m.depth :=
    (keepingDepth m.depth).tolerates fun waits vain => .inr fun m' on =>
      Bool.eq_false_iff.2 fun waiting => Bool.eq_false_iff.1 on (vain m' waiting)
  -- the run that waits for a stray depth is compared with one that waits for nothing: it is not stopped
  have ends : (keepingDepth m.depth).Leaves m (t.run (Evaluator.watched host (fun _ => false) n) m)
      (t.run (Evaluator.watched host (strays m.depth) n) m) :=
    tolerates.task outside
      (fun h => h.watched (fun _ _ waiting => absurd waiting Bool.false_ne_true) (.inr fun _ on => on)) n t m inBounds
  have same : t.run (Evaluator.watched host (strays m.depth) n) m = run := by
    rw [Evaluator.watched_never] at ends
    exact ends.same.resolve_right fun ⟨m', stopped⟩ => ends.stops m' stopped
  have kept : (machineOf run).depth = m.depth := same ▸ ends.small
  refine ⟨⟨kept, fun k => ?_⟩, ⟨same, fun m' stopped => ends.stops m' (same.trans stopped)⟩, ?_⟩
  · rw [Run.levels_apply, Run.levels_apply, kept]
    split
    · exact iff_of_true rfl rfl
    · exact iff_of_false nofun nofun
  · intro r decl scope this args script
    rw [Evaluator.call_script host n script, Evaluator.callScript_eq, Run.level_apply]

/-! ### An overflow that is caught -/

namespace Overflowing

/-- A host with a function that calls the function it is given, with itself as the argument. What that asks for is asked
of the same host again, up to a number of times. -/
def callingBack : Nat → Host Unit
  | 0 => { call := fun _ _ _ => return .undefined }
  | k + 1 => { call := fun _ _ args =>
      (Task.call (Value.argument args 0) .undefined args).run (Evaluator.watched (callingBack k) (strays 62) 20) }

theorem outside (k : Nat) :
    (callingBack k).Outside (fun m m' => m'.depth = m.depth) fun waits => ∀ m', waits m' → m'.strays 62 := by
  have silent : ∀ m : Machine Unit, ∃ a m', (return () : Run Unit Unit) m = .ok a m' ∧ m'.depth = m.depth :=
    fun m => ⟨(), m, rfl, rfl⟩
  induction k with
  | zero => exact ⟨fun _ _ _ => .step fun m => ⟨_, m, rfl, rfl⟩, fun _ _ => .step silent, fun _ _ => rfl⟩
  | succ k ih =>
    exact ⟨fun _ _ args =>
        .ask ih.call ih.begins ih.loads (fun _ => id) 20 (.call (Value.argument args 0) .undefined args),
      fun _ _ => .step silent, fun _ _ => rfl⟩

/-- A machine with two levels left, on which the function of the host has a name. -/
def machine : Machine Unit :=
  let (f, heap) := (initial ()).heap.addFunction { name := "again", kind := .native (.host (.named "again")) }
  ({ initial () with heap, depth := 62 } : Machine Unit).bind globalFrame "again" (.function f)

/-- A script that catches the error of calls that nest without end. -/
def script : Task :=
  .eval "function f() \x7b return again(f); \x7d var n; try \x7b f(); \x7d catch (e) \x7b n = e.name; \x7d n;"

/-- What the script comes to, if it has a value, and the machine behind it. -/
def run : Option Value × Machine Unit :=
  match script.run (Evaluator.ofFuel (callingBack 3) 20) machine with
  | .ok v m => (some v, m)
  | .error _ m => (none, m)

end Overflowing

open Overflowing in
/-- Behind the error that was caught there are two levels left, as there were before. -/
theorem depth_balanced_overflowing :
    run.1 = some (.string "RangeError") ∧ run.2.depth = 62 ∧ Run.levels 2 run.2 = .ok () run.2 := by
  have caught : run.1 = some (.string "RangeError") := by decide +kernel
  obtain ⟨⟨kept, left⟩, -, -⟩ := depth_balanced (callingBack 3) machine (outside 3) 20 script
  have behind : machineOf (script.run (Evaluator.ofFuel (callingBack 3) 20) machine) = run.2 := by
    unfold run
    cases script.run (Evaluator.ofFuel (callingBack 3) 20) machine <;> rfl
  rw [behind] at kept left
  exact ⟨caught, kept, (left 2).2 rfl⟩

end ScriptCoverage.Machine
