import ScriptCoverage.Proofs.Coverage.Transparency

/-!
Runs that are watched. A host with a trace notes when a statement of a body begins and what the recorder of a
session is called with; it does nothing else. Main statements: `SameHosts.traced` — hosts with traces do the
same if the notes of both belong together — and `SameHosts.watched` — a trace changes nothing.
-/

namespace ScriptCoverage

open Machine

variable {σ σ' τ α : Type}

/-- What is noted of a run: a statement with a range begins, or a recorder is called with a key and a range. -/
inductive Event
  | began (s : Span)
  | recorded (key : String) (s : Span)
  deriving DecidableEq

/-- The state of a host and what was noted so far. -/
structure Traced (σ : Type) where
  state : σ
  events : List Event := []

def Traced.log (o : Traced σ) (es : List Event) : Traced σ := { o with events := o.events ++ es }

theorem Traced.log_nil (o : Traced σ) : o.log [] = o := by simp [log]

namespace Machine

/-- What a run comes to, with what was noted of it. -/
def withTrace (es : List Event) :
    EStateM.Result Interrupt (Machine σ) α → EStateM.Result Interrupt (Machine (Traced σ)) α
  | .ok a m => .ok a (m.withHost ⟨m.host, es⟩)
  | .error e m => .error e (m.withHost ⟨m.host, es⟩)

/-- Runs something that notes nothing. -/
def Run.inner (x : Run σ α) : Run (Traced σ) α := fun m => withTrace m.host.events (x (m.withHost m.host.state))

/-- What is noted of a call: what the recorder of a session is to count. -/
def callEvents (session : Nat) : HostFunction → List Value → List Event
  | .recorder s, args =>
    match Recorder.target args with
    | .ok (key, range) => if s = session then [.recorded key range] else []
    | .error _ => []
  | .named _, _ => []

/-- A host with a trace. What is noted of a statement that begins is up to a function. -/
def Host.traced (host : Host σ) (session : Nat) (noted : Scope → Program.Stmt → List Event) : Host (Traced σ) where
  call f this args := do
    Run.note (·.log (callEvents session f args))
    Run.inner (host.call f this args)
  begins scope s := do
    Run.note (·.log (noted scope s))
    Run.inner (host.begins scope s)
  loads e o := { o with state := host.loads e o.state }

/-- A machine whose host starts a trace. -/
def watched (m : Machine σ) : Machine (Traced σ) := m.withHost { state := m.host }

theorem Run.note_log_nil : (Run.note (·.log []) : Run (Traced σ) Unit) = pure () := by
  funext m
  exact congrArg (EStateM.Result.ok ()) (congrArg (fun h => { m with host := h }) m.host.log_nil)

theorem Run.note_inner (x : Run σ α) (es : List Event) (m : Machine (Traced σ)) :
    (do
      Run.note (·.log es)
      Run.inner x : Run (Traced σ) α) m = withTrace (m.host.events ++ es) (x (m.withHost m.host.state)) := rfl

namespace Simulation

/-! ### Two traces -/

/-- The same runs between two notes. -/
def inside (T : Simulation (Traced σ) (Traced σ')) (es es' : List Event) : Simulation σ σ' :=
  { T with agree := fun h h' => T.agree ⟨h, es⟩ ⟨h', es'⟩ }

theorem Same.inner {T : Simulation (Traced σ) (Traced σ')} {x : Run σ α} {y : Run σ' α}
    (h : ∀ es es', (T.inside es es').Same x y) : T.Same (Run.inner x) (Run.inner y) := by
  intro m m' hm
  have first := h m.host.events m'.host.events _ _ (hm.withHost hm.host)
  unfold Run.inner
  generalize x (m.withHost m.host.state) = r at first
  generalize y (m'.withHost m'.host.state) = r' at first
  have back {n : Machine σ} {n' : Machine σ'}
      (hn : (T.inside m.host.events m'.host.events).Related n n') :
      T.Related (n.withHost ⟨n.host, m.host.events⟩) (n'.withHost ⟨n'.host, m'.host.events⟩) :=
    hn.withHost hn.host
  cases first with
  | ok hv hn => exact .ok hv (back hn)
  | failed e hn => exact .failed e (back hn)
  | stopped m => exact .stopped _ _
  | first h m => exact Matches.first (T := T) h _ _
  | second h _ m => exact Matches.second (T := T) h _ _

end Simulation

/-! ### Recorders with traces -/

section Calls

variable {other : Host (Ledger τ)} {session s n : Nat} {noted : Scope → Program.Stmt → List Event} {this : Value}
  {args : List Value} {m : Machine (Traced (Ledger τ))}

theorem Host.traced_recorder_of_ok {t : Table Record}
    (h : Recorder.recordArgs (Recorder.table m.host.state s) args = .ok (n, t)) :
    ((Recorder.host other).traced session noted).call (.recorder s) this args m =
      .ok .undefined (m.withHost ⟨Recorder.setTable s t m.host.state,
        m.host.events ++ callEvents session (.recorder s) args⟩) := by
  change Run.inner (Recorder.call s args) (m.withHost (m.host.log (callEvents session (.recorder s) args))) = _
  rw [Run.inner, Recorder.call_of_ok h]
  rfl

theorem Host.traced_recorder_of_error {e : CoverageError}
    (h : Recorder.recordArgs (Recorder.table m.host.state s) args = .error e) :
    ((Recorder.host other).traced session noted).call (.recorder s) this args m =
      .error (.failed (e.toFatal m.heap)) (m.withHost (m.host.log (callEvents session (.recorder s) args))) := by
  change Run.inner (Recorder.call s args) (m.withHost (m.host.log (callEvents session (.recorder s) args))) = _
  rw [Run.inner, Recorder.call_of_error h]
  rfl

end Calls

/-- Whether calls of recorders keep a relation between watched ledgers, and fail on both sides or on none. -/
def RespectsTraced (session : Nat) (agree : Traced (Ledger τ) → Traced (Ledger τ) → Prop) : Prop :=
  ∀ s args o o', agree o o' →
    (∃ e, Recorder.recordArgs (Recorder.table o.state s) args = .error e ∧
      Recorder.recordArgs (Recorder.table o'.state s) args = .error e ∧
      agree (o.log (callEvents session (.recorder s) args)) (o'.log (callEvents session (.recorder s) args))) ∨
    ∃ n n' t t', Recorder.recordArgs (Recorder.table o.state s) args = .ok (n, t) ∧
      Recorder.recordArgs (Recorder.table o'.state s) args = .ok (n', t') ∧
      agree ⟨Recorder.setTable s t o.state, o.events ++ callEvents session (.recorder s) args⟩
        ⟨Recorder.setTable s t' o'.state, o'.events ++ callEvents session (.recorder s) args⟩

theorem respectsTraced_eq (session : Nat) : RespectsTraced session (Eq : Traced (Ledger τ) → Traced (Ledger τ) → Prop) := by
  rintro s args o _ rfl
  cases h : Recorder.recordArgs (Recorder.table o.state s) args with
  | error e => exact .inl ⟨e, rfl, rfl, rfl⟩
  | ok x => exact .inr ⟨x.1, x.1, x.2, x.2, rfl, rfl, rfl⟩

namespace Simulation

theorem Same.traced_recorder {T : Simulation (Traced (Ledger τ)) (Traced (Ledger τ))} {session : Nat}
    (respects : RespectsTraced session T.agree) {other : Host (Ledger τ)} {noted noted' : Scope → Program.Stmt → List Event}
    (s : Nat) (this : Value) (args : List Value) :
    T.Same (((Recorder.host other).traced session noted).call (.recorder s) this args)
      (((Recorder.host other).traced session noted').call (.recorder s) this args) := by
  intro m m' hm
  rcases respects s args _ _ hm.host with ⟨e, he, he', agree⟩ | ⟨n, n', t, t', ht, ht', agree⟩
  · rw [Host.traced_recorder_of_error he, Host.traced_recorder_of_error he', CoverageError.toFatal,
      CoverageError.toFatal, hm.heap, message_heap]
    exact .failed _ (hm.withHost agree)
  · rw [Host.traced_recorder_of_ok ht, Host.traced_recorder_of_ok ht']
    exact .ok rfl (hm.withHost agree)

/-- Hosts with traces do the same where what they note belongs together. -/
theorem SameHosts.traced {T : Simulation (Traced (Ledger τ)) (Traced (Ledger τ))} {session : Nat}
    {other : Host (Ledger τ)} (blind : other.Blind) {noted noted' : Scope → Program.Stmt → List Event}
    (tables : ∀ es es', OverTables fun l l' => T.agree ⟨l, es⟩ ⟨l', es'⟩) (respects : RespectsTraced session T.agree)
    (begun : ∀ scope s, T.isHome scope = false → ∀ o o', T.agree o o' →
      T.agree (o.log (noted scope s)) (o'.log (noted' scope s)))
    (silent : ∀ scope s, T.isHome scope = true → noted' scope s = []) :
    T.SameHosts ((Recorder.host other).traced session noted) ((Recorder.host other).traced session noted') where
  call f this args := by
    cases f with
    | recorder s => exact .traced_recorder respects s this args
    | named name =>
      refine Same.bind (.note fun o o' h => ?_) fun _ => ?_
      · rwa [callEvents, Traced.log_nil, Traced.log_nil]
      · exact Same.inner fun es es' => blind.call _ (tables es es') (.named name) this args
  begins scope s bare := by
    refine Same.bind (.note (begun scope s bare)) fun _ => Same.inner fun es es' => ?_
    change (T.inside es es').Same (other.begins scope s) (other.begins scope s)
    rw [blind.begins]
    exact .pure _
  silent scope s inside := by
    change (do Run.note (·.log (noted' scope s)); Run.inner (other.begins scope s) : Run (Traced (Ledger τ)) Unit) = _
    rw [silent scope s inside, Run.note_log_nil, blind.begins]
    rfl
  loads e o o' h := blind.loads _ (tables o.events o'.events) e o.state o'.state h

/-! ### Runs with and without a trace -/

/-- Runs of which the second one is watched. -/
def watching (T : Simulation σ σ') : Simulation σ (Traced σ') := { T with agree := fun h o => T.agree h o.state }

theorem Same.watched {T : Simulation σ σ'} {x : Run σ α} {y : Run σ' α} (h : T.Same x y) (es : List Event) :
    T.watching.Same x (do
      Run.note (·.log es)
      Run.inner y) := by
  intro m m' hm
  have same := h m (m'.withHost m'.host.state) (hm.withHost hm.host)
  rw [Run.note_inner]
  generalize x m = r at same
  generalize y (m'.withHost m'.host.state) = r' at same
  cases same with
  | ok hv hn => exact .ok hv (hn.withHost hn.host)
  | failed e hn => exact .failed e (hn.withHost hn.host)
  | stopped m => exact .stopped _ _
  | first h m => exact Matches.first (T := T.watching) h _ _
  | second h _ m => exact Matches.second (T := T.watching) h _ _

/-- Runs of which one is watched end on the same machine. -/
theorem eq_withTrace {T : Simulation σ σ} {r : EStateM.Result Interrupt (Machine σ) α}
    {r' : EStateM.Result Interrupt (Machine (Traced σ)) α} (home : T.home = none)
    (h : T.SameEnd (fun s o => s = o.state) r r') : ∃ es, r' = withTrace es r := by
  have same {m : Machine σ} {m' : Machine (Traced σ)} (h : T.Corresponds (fun s o => s = o.state) m m') :
      m' = m.withHost ⟨m.host, m'.host.events⟩ := by
    have host : m.host = m'.host.state := h.host
    rw [host]
    exact h.eq_withHost home
  cases h with
  | ok a h => exact ⟨_, congrArg (EStateM.Result.ok a) (same h)⟩
  | failed e h => exact ⟨_, congrArg (EStateM.Result.error (Interrupt.failed e)) (same h)⟩

/-- A trace changes nothing. -/
theorem SameHosts.watched {T : Simulation σ σ'} {host : Host σ} {host' : Host σ'} (h : T.SameHosts host host')
    (home : T.home = none) (session : Nat) (noted : Scope → Program.Stmt → List Event) :
    T.watching.SameHosts host (host'.traced session noted) where
  call f this args := (h.call f this args).watched _
  begins scope s bare := (h.begins scope s bare).watched _
  silent scope _ inside := absurd inside (Bool.eq_false_iff.1 (T.isHome_of_none home scope))
  loads e s o agree := h.loads e s o.state agree

end Simulation

end Machine

theorem Probe.sameHosts_watched {other : Host (Ledger τ)} (blind : other.Blind) {p : Probe} {session : Nat}
    (noted : Scope → Program.Stmt → List Event) (lead : Lead) :
    ((p.beside session Eq).led lead).SameHosts ((Recorder.host other).traced session noted)
      ((Recorder.host other).traced session noted) := by
  refine .traced (T := (p.beside session Eq).led lead) blind (fun es es' => ?_) (respectsTraced_eq session)
    (fun _ _ _ o o' h => ?_) fun scope _ inside => ?_
  · rintro l l' h
    cases h
    exact ⟨rfl, fun _ => rfl⟩
  · cases h
    rfl
  · cases inside

/-- A watched run diverges where the run does, or ends in the same way and on the same machine. -/
theorem Probe.moduleRun_watched {other : Host (Ledger τ)} (blind : other.Blind) {p : Probe} {session : Nat}
    {m : Machine (Ledger τ)} (ready : m.Ready p session) {program : Program}
    (hb : Program.Stmt.BodyBindsOnly (· ≠ p.recorder.name) (fun _ => True) program.body) {params : List String}
    (hps : ∀ name ∈ params, name ≠ p.recorder.name) (this : Value) (args : List Value)
    (unstopped : ∀ n m', moduleRun (Recorder.host other) params program this args m n ≠ .error .stopped m')
    (noted : Scope → Program.Stmt → List Event) :
    (Diverges (moduleRun (Recorder.host other) params program this args m) ∧
      Diverges (moduleRun ((Recorder.host other).traced session noted) params program this args m.watched)) ∨
    ∃ r es, Ends (moduleRun (Recorder.host other) params program this args m) r ∧
      Ends (moduleRun ((Recorder.host other).traced session noted) params program this args m.watched)
        (withTrace es r) := by
  have same (lead : Lead) : ((p.beside session Eq).led lead).SameHosts (Recorder.host other) (Recorder.host other) :=
    sameHosts_beside blind lead
  have itself := Simulation.Tracks.bare (T := p.beside session Eq) ready rfl same hps this args rfl hb unstopped
  have watched := Simulation.Tracks.bare (T := (p.beside session Eq).watching) (h := m.watched.host) ready rfl
    (fun lead => (same lead).watched rfl session noted) hps this args rfl hb unstopped
  have settled := Simulation.moduleRun_settled (T := p.beside session Eq) rfl rfl ready same hps hb this args
  have settled' := Simulation.moduleRun_settled (T := p.beside session Eq) rfl rfl (ready.withHost m.watched.host)
    (sameHosts_watched blind noted) hps hb this args
  refine (itself.both watched settled settled').imp id ?_
  rintro ⟨r, r₁, r₂, ends₁, ends₂, same₁, same₂⟩
  obtain rfl := same₁.eq rfl
  obtain ⟨es, rfl⟩ := Simulation.eq_withTrace rfl same₂
  exact ⟨r₁, es, ends₁, ends₂⟩

end ScriptCoverage
