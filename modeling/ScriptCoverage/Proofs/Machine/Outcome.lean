import ScriptCoverage.Proofs.Machine.ModuleRun

/-!
Outcomes of runs. A run has an outcome if it ends with enough fuel, and diverges if no fuel is enough.
`Simulation.Tracks` compares two runs as a whole. Main statements: `Tracks.bare` and `Tracks.woven` — a run
tracks another one if their hosts do the same, without and with probes in the second — and
`Tracks.both` — two runs that track a third one diverge both or end in the same way.
-/

namespace ScriptCoverage.Machine

variable {σ σ' σ₁ σ₂ α : Type}

/-! ### Outcomes -/

/-- What a run comes to, given more and more fuel. -/
abbrev Outcomes (σ α : Type) := Nat → EStateM.Result Interrupt (Machine σ) α

/-- Whether a run came to an end, with a result or an error. -/
def HasOutcome : EStateM.Result Interrupt (Machine σ) α → Prop
  | .ok _ _ | .error (.failed _) _ => True
  | .error .outOfFuel _ | .error .stopped _ => False

/-- Whether a run comes to an end, always the same one if there is enough fuel. -/
structure Ends (x : Outcomes σ α) (r : EStateM.Result Interrupt (Machine σ) α) : Prop where
  outcome : HasOutcome r
  settled : ∃ n, ∀ k, n ≤ k → x k = r

/-- Whether no fuel is enough for a run. -/
def Diverges (x : Outcomes σ α) : Prop := ∀ n, ∃ m, x n = .error .outOfFuel m

/-- What the run of a module comes to on a machine. -/
def moduleRun (host : Host σ) (params : List String) (program : Program) (this : Value) (args : List Value)
    (m : Machine σ) : Outcomes σ Unit :=
  fun n => (Evaluator.ofFuel host n).runFactory params program this args m

theorem Ends.unique {x : Outcomes σ α} {r r' : EStateM.Result Interrupt (Machine σ) α} (h : Ends x r) (h' : Ends x r') :
    r = r' := by
  obtain ⟨n, hn⟩ := h.settled
  obtain ⟨n', hn'⟩ := h'.settled
  rw [← hn (max n n') (Nat.le_max_left n n'), hn' (max n n') (Nat.le_max_right n n')]

/-- Runs that ended in the same way, on machines that correspond. -/
inductive Weave.SameEnd (S : Weave) (agree : σ → σ' → Prop) :
    EStateM.Result Interrupt (Machine σ) α → EStateM.Result Interrupt (Machine σ') α → Prop
  | ok (a : α) {m : Machine σ} {m' : Machine σ'} (h : S.Corresponds agree m m') : SameEnd S agree (.ok a m) (.ok a m')
  | failed (e : RuntimeError) {m : Machine σ} {m' : Machine σ'} (h : S.Corresponds agree m m') :
    SameEnd S agree (.error (.failed e) m) (.error (.failed e) m')

namespace Weave

variable {S : Weave} {agree : σ → σ' → Prop} {r : EStateM.Result Interrupt (Machine σ) α}

theorem SameEnd.outcome {r' : EStateM.Result Interrupt (Machine σ') α} (h : S.SameEnd agree r r') : HasOutcome r' := by
  cases h with
  | ok => trivial
  | failed => trivial

/-- Without probes only the state of the host can differ. -/
theorem Corresponds.eq_withHost {m : Machine σ} {m' : Machine σ'} (home : S.home = none)
    (h : S.Corresponds agree m m') : m' = m.withHost m'.host := by
  obtain ⟨heap, frames, registry, loaded, depth, console, host⟩ := m'
  obtain ⟨hheap, rfl, rfl, rfl, rfl, rfl, -⟩ := h
  rw [S.heap_eq_self fun _ _ _ scope _ _ => S.isHome_of_none home scope] at hheap
  obtain rfl := hheap
  rfl

theorem SameEnd.eq {r' : EStateM.Result Interrupt (Machine σ) α} (home : S.home = none) (h : S.SameEnd Eq r r') :
    r' = r := by
  cases h with
  | ok a h =>
    rw [h.eq_withHost home, ← h.host]
    rfl
  | failed e h =>
    rw [h.eq_withHost home, ← h.host]
    rfl

end Weave

namespace Simulation

/-! ### Runs as a whole -/

/-- The same runs with another one of them in the lead. -/
def led (T : Simulation σ σ') (lead : Lead) : Simulation σ σ' := { T with lead }

/-- Whether a run ends where another one does, and in the same way. -/
structure Tracks (T : Simulation σ σ') (x : Outcomes σ α) (y : Outcomes σ' α) : Prop where
  ends : ∀ n, HasOutcome (x n) → ∃ k, T.SameEnd T.agree (x n) (y k)
  back : ∀ n, HasOutcome (y n) → HasOutcome (x n)
  unstopped : ∀ n m, y n ≠ .error .stopped m

variable {T : Simulation σ σ'}

theorem Matches.sameEnd {x : EStateM.Result Interrupt (Machine σ) α} {y : EStateM.Result Interrupt (Machine σ') α}
    (h : (T.led .first).Matches Eq x y) (hx : HasOutcome x) : T.SameEnd T.agree x y := by
  cases h with
  | ok hv hm => exact hv ▸ .ok _ hm.toCorresponds
  | failed e hm => exact .failed e hm.toCorresponds
  | stopped => cases hx
  | first => cases hx
  | second lead => cases lead

/-- Runs that keep up with each other, whichever has more fuel. -/
theorem Tracks.of_matches {x : Outcomes σ α} {y : Outcomes σ' α} (extra : Nat)
    (first : ∀ n, (T.led .first).Matches Eq (x n) (y (n + extra)))
    (second : ∀ n, (T.led .second).Matches Eq (x n) (y n)) (unstopped : ∀ n m, x n ≠ .error .stopped m) :
    T.Tracks x y where
  ends n hx := ⟨n + extra, (first n).sameEnd hx⟩
  back n hy := by
    have both := second n
    have free := unstopped n
    generalize x n = r at both free ⊢
    generalize y n = r' at both hy
    cases both with
    | ok => trivial
    | failed => trivial
    | stopped m => exact absurd rfl (free m)
    | first lead => cases lead
    | second => cases hy
  unstopped n m hy := by
    have both := second n
    have free := unstopped n
    rw [hy] at both
    generalize x n = r at both free
    cases both with
    | stopped m => exact free m rfl
    | first lead => cases lead

/-- Two runs that track a third one diverge both, or both end in the way in which it does. -/
theorem Tracks.both {T₁ : Simulation σ σ₁} {T₂ : Simulation σ σ₂} {x : Outcomes σ α} {y₁ : Outcomes σ₁ α}
    {y₂ : Outcomes σ₂ α} (h₁ : T₁.Tracks x y₁) (h₂ : T₂.Tracks x y₂)
    (settled₁ : ∀ n k, HasOutcome (y₁ n) → y₁ (n + k) = y₁ n) (settled₂ : ∀ n k, HasOutcome (y₂ n) → y₂ (n + k) = y₂ n) :
    (Diverges y₁ ∧ Diverges y₂) ∨
      ∃ r r₁ r₂, Ends y₁ r₁ ∧ Ends y₂ r₂ ∧ T₁.SameEnd T₁.agree r r₁ ∧ T₂.SameEnd T₂.agree r r₂ := by
  have diverges {σ' : Type} {T : Simulation σ σ'} {y : Outcomes σ' α} (h : T.Tracks x y)
      (none : ¬ ∃ n, HasOutcome (x n)) : Diverges y := by
    intro n
    have back := h.back n
    have unstopped := h.unstopped n
    generalize y n = r at back unstopped
    match r with
    | .ok _ _ | .error (.failed _) _ => exact absurd ⟨n, back trivial⟩ none
    | .error .stopped m => exact absurd rfl (unstopped m)
    | .error .outOfFuel m => exact ⟨m, rfl⟩
  have ends {σ' : Type} {y : Outcomes σ' α} (settled : ∀ n k, HasOutcome (y n) → y (n + k) = y n) {n : Nat}
      (h : HasOutcome (y n)) : Ends y (y n) :=
    ⟨h, n, fun k hk => by
      obtain ⟨d, rfl⟩ := Nat.exists_eq_add_of_le hk
      exact settled n d h⟩
  by_cases h : ∃ n, HasOutcome (x n)
  · obtain ⟨n, hn⟩ := h
    obtain ⟨k₁, e₁⟩ := h₁.ends n hn
    obtain ⟨k₂, e₂⟩ := h₂.ends n hn
    exact .inr ⟨x n, y₁ k₁, y₂ k₂, ends settled₁ e₁.outcome, ends settled₂ e₂.outcome, e₁, e₂⟩
  · exact .inl ⟨diverges h₁ h, diverges h₂ h⟩

/-! ### Runs of modules -/

section Modules

variable {m : Machine σ} {h : σ'} (ready : m.Ready T.probe T.session) (agree : T.agree m.host h) {host : Host σ}
  {host' : Host σ'} (hosts : ∀ lead, (T.led lead).SameHosts host host') {params : List String}
  (hps : ∀ name ∈ params, T.Avoids name) {program : Program} (this : Value) (args : List Value)

include ready agree hosts hps

/-- Runs of a module on two hosts, without probes. -/
theorem Matches.bare (home : T.home = none)
    (hb : Program.Stmt.BodyBindsOnly T.Avoids (fun _ => True) program.body) (lead : Lead) (extra : Nat)
    (none : lead = .second → extra = 0) (n : Nat) :
    (T.led lead).Matches Eq (moduleRun host params program this args m n)
      (moduleRun host' params program this args (m.withHost h) (n + extra)) := by
  have bare (scope : Scope) : (T.led lead).isHome scope = false := Weave.isHome_of_none home scope
  have sides := SideBySide.ofFuel (hosts lead) extra none
    (fun _ scope _ _ inside _ => absurd inside (Bool.eq_false_iff.1 (bare scope))) n
  have related : (T.led lead).Related m (m.withHost h) := Related.ofReady ready agree home
  exact Same.runFactory sides hps hb this args _ _ related

theorem Tracks.bare (home : T.home = none) (hb : Program.Stmt.BodyBindsOnly T.Avoids (fun _ => True) program.body)
    (unstopped : ∀ n n', moduleRun host params program this args m n ≠ .error .stopped n') :
    T.Tracks (moduleRun host params program this args m) (moduleRun host' params program this args (m.withHost h)) :=
  .of_matches 0 (Matches.bare ready agree hosts hps this args home hb .first 0 (fun _ => rfl))
    (Matches.bare ready agree hosts hps this args home hb .second 0 (fun _ => rfl)) unstopped

/-- A run of a module and one of the module with probes. A probe takes three levels. -/
theorem Tracks.woven (home : T.home = some ⟨m.frames.size⟩)
    (probed : ∀ lead n scope s, (lead = .first → 3 ≤ n) → globalFrame ∈ scope → T.isHome scope = true → T.fits s.span →
      (T.led lead).Follows (fun _ c => c = .normal) (host.begins scope s)
        ((Evaluator.ofFuel host' n).stmt scope [] (T.probe.lowered s.span)))
    (hb : Program.Stmt.BodyBindsOnly T.Avoids T.fits program.body)
    (unstopped : ∀ n n', moduleRun host params program this args m n ≠ .error .stopped n') :
    T.Tracks (moduleRun host params program this args m)
      (moduleRun host' params (program.mapBodies T.probe.weave) this args (m.withHost h)) := by
  have sides (lead : Lead) (extra : Nat) (none : lead = .second → extra = 0) (enough : lead = .first → 3 ≤ extra)
      (n : Nat) : (T.led lead).SideBySide (Evaluator.ofFuel host n) (Evaluator.ofFuel host' (n + extra)) :=
    SideBySide.ofFuel (hosts lead) extra none (fun n scope s hg inside fits =>
      probed lead (n + extra) scope s (fun first => Nat.le_add_left_of_le (enough first)) hg inside fits) n
  have runs (lead : Lead) (extra : Nat) (none : lead = .second → extra = 0) (enough : lead = .first → 3 ≤ extra)
      (n : Nat) : (T.led lead).Matches Eq (moduleRun host params program this args m n)
        (moduleRun host' params (program.mapBodies T.probe.weave) this args (m.withHost h) (n + extra)) :=
    Matches.runFactory (T := T.led lead) ready agree home (sides lead extra none enough n) hps hb this args
  exact .of_matches 3 (runs .first 3 nofun fun _ => Nat.le_refl 3) (runs .second 0 (fun _ => rfl) nofun) unstopped

end Modules

/-- More fuel does not change the outcome of a run. -/
theorem moduleRun_settled {T : Simulation σ σ} (eq : T.agree = Eq) (home : T.home = none) {m : Machine σ}
    (ready : m.Ready T.probe T.session) {host : Host σ} (hosts : ∀ lead, (T.led lead).SameHosts host host)
    {params : List String} (hps : ∀ name ∈ params, T.Avoids name) {program : Program}
    (hb : Program.Stmt.BodyBindsOnly T.Avoids (fun _ => True) program.body) (this : Value) (args : List Value) (n k : Nat)
    (h : HasOutcome (moduleRun host params program this args m n)) :
    moduleRun host params program this args m (n + k) = moduleRun host params program this args m n := by
  have agree : T.agree m.host m.host := by rw [eq]
  have both := Matches.bare ready agree hosts hps this args home hb .first k nofun n
  have same := both.sameEnd h
  rw [eq] at same
  exact same.eq home

end Simulation

end ScriptCoverage.Machine
