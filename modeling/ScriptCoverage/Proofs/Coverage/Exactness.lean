import ScriptCoverage.Proofs.Coverage.Counters
import ScriptCoverage.Proofs.Coverage.Tracing

/-!
What a recorder counts, against what was noted of a watched run. `Exact` relates the traces and the ledgers of a run of a
module and one of the module with probes; every call of a recorder and every probe keeps it. Main statement:
`coverage_exact` — coverage is exact: the recorder is called with the ranges of the statements that begin, in the order in
which they begin, and each counter grows by as much as its statement began.
-/

namespace ScriptCoverage

open Machine

variable {σ τ : Type}

namespace Recorder

/-- How often a range of a module of a session ran. -/
def countOf (l : Ledger τ) (session : Nat) (key : String) (s : Span) : Nat :=
  ((table l session).get? key).elim 0 (·.count s)

variable {l : Ledger τ} {session s n : Nat} {key : String} {args : List Value}

theorem table_setTable (listed : (table l session).contains key) (t : Table Record) :
    table (setTable session t l) session = t := by
  have bound : session < l.tables.size := by
    refine Nat.lt_of_not_le fun h => ?_
    rw [table, Array.getElem?_eq_none h] at listed
    cases listed
  rw [table, setTable, Array.getElem?_setIfInBounds_self_of_lt bound]
  rfl

/-- A call that counts adds to the count what is noted of it. -/
theorem countOf_recordArgs (listed : (table l session).contains key) {t : Table Record}
    (h : recordArgs (table l s) args = .ok (n, t)) (range : Span) :
    countOf (setTable s t l) session key range =
      countOf l session key range + (callEvents session (.recorder s) args).count (.recorded key range) := by
  rcases recordArgs_cases (table l s) args with ⟨e, -, he⟩ | ⟨name, hit, ht, ⟨-, he⟩ | ⟨r, hr, ho⟩⟩
  · cases he.symm.trans h
  · cases he.symm.trans h
  cases ho.symm.trans h
  simp only [callEvents, ht, countOf]
  by_cases own : s = session
  · subst own
    rw [table_setTable listed, Table.get?_put, if_pos rfl]
    by_cases this : name = key
    · subst this
      simp [hr, Record.count_hit, List.count_singleton]
    · simp [this]
  · rw [table_setTable_of_ne own, if_neg own]
    rfl

/-- Of a call that counts nothing, nothing is noted for a module that is there. -/
theorem count_callEvents_of_error (listed : (table l session).contains key) {e : CoverageError}
    (h : recordArgs (table l s) args = .error e) (range : Span) :
    (callEvents session (.recorder s) args).count (.recorded key range) = 0 := by
  rcases recordArgs_cases (table l s) args with ⟨e, ht, -⟩ | ⟨name, hit, ht, ⟨none, -⟩ | ⟨r, -, ho⟩⟩
  · simp [callEvents, ht]
  · simp only [callEvents, ht]
    by_cases own : s = session
    · subst own
      have other : name ≠ key := by
        rintro rfl
        rw [Table.contains, none] at listed
        cases listed
      simp [other]
    · rw [if_neg own]
      rfl
  · cases ho.symm.trans h

end Recorder

/-! ### Traces of runs with and without probes -/

/-- Whether numbers represent both ends of a range exactly. -/
def Span.IsExact (s : Span) : Prop := s.start < 2 ^ 53 ∧ s.stop < 2 ^ 53

/-- What the probes of a module with a key make of an event. -/
def Event.probed (key : String) : Event → Event
  | .began s => .recorded key s
  | .recorded name s => .recorded name s

/-- Whether the second of two runs, which started with some ledger, recorded the statements that the first one
began, in the same order and between the same other calls, and counted what it recorded. -/
structure Exact (session : Nat) (key : String) (fits : Span → Prop) (start : Ledger τ) (o o' : Traced (Ledger τ)) :
    Prop where
  counted : Recorder.Counted session key o.state o'.state
  begun : ∀ s, .began s ∈ o.events → fits s
  events : o'.events = o.events.map (Event.probed key)
  counts : ∀ s, Recorder.countOf o'.state session key s =
    Recorder.countOf start session key s + (o.events.count (.began s) + o.events.count (.recorded key s))

theorem began_not_mem_callEvents (s : Span) (session : Nat) (f : HostFunction) (args : List Value) :
    .began s ∉ callEvents session f args := by
  unfold callEvents
  split
  · split
    · split <;> simp
    · exact nofun
  · exact nofun

theorem map_probed_callEvents (key : String) (session : Nat) (f : HostFunction) (args : List Value) :
    (callEvents session f args).map (Event.probed key) = callEvents session f args := by
  unfold callEvents
  split
  · split
    · split <;> rfl
    · rfl
  · rfl

section Exact

variable {session : Nat} {key : String} {fits : Span → Prop} {start : Ledger τ}

theorem Exact.log_callEvents {o o' : Traced (Ledger τ)} (h : Exact session key fits start o o') {l l' : Ledger τ}
    (counted : Recorder.Counted session key l l') (f : HostFunction) (args : List Value)
    (counts : ∀ s, Recorder.countOf l' session key s =
      Recorder.countOf o'.state session key s + (callEvents session f args).count (.recorded key s)) :
    Exact session key fits start ⟨l, o.events ++ callEvents session f args⟩ ⟨l', o'.events ++ callEvents session f args⟩ where
  counted := counted
  begun s hs := h.begun s ((List.mem_append.1 hs).resolve_right (began_not_mem_callEvents s session f args))
  events := by rw [h.events, List.map_append, map_probed_callEvents]
  counts s := by
    have none := List.count_eq_zero.2 (began_not_mem_callEvents s session f args)
    rw [counts, h.counts, List.count_append, List.count_append, none]
    omega

theorem Exact.respects : RespectsTraced session (Exact session key fits start) := by
  intro s args o o' h
  have listed := h.counted.listed
  rcases Recorder.Counted.respects session key s args _ _ h.counted with ⟨e, he, he'⟩ | ⟨n, n', t, t', ht, ht', counted⟩
  · refine .inl ⟨e, he, he', h.log_callEvents h.counted _ args fun range => ?_⟩
    rw [Recorder.count_callEvents_of_error listed he']
    rfl
  · exact .inr ⟨n, n', t, t', ht, ht', h.log_callEvents counted _ args (Recorder.countOf_recordArgs listed ht')⟩

theorem Exact.overTables (es es' : List Event) :
    OverTables fun l l' : Ledger τ => Exact session key fits start ⟨l, es⟩ ⟨l', es'⟩ := by
  intro l l' h
  obtain ⟨rest, replaced⟩ := overTables_counted session key l l' h.counted
  exact ⟨rest, fun rest => ⟨replaced rest, h.begun, h.events, h.counts⟩⟩

/-- The call of a probe records the statement that begins. -/
theorem Exact.probe {p : Probe} {o o' : Traced (Ledger τ)} (h : Exact session p.key fits start o o') {s : Span}
    (hs : fits s) (represented : s.IsExact) :
    ∃ n t, Recorder.recordArgs (Recorder.table o'.state session) (p.arguments s) = .ok (n, t) ∧
      Exact session p.key fits start (o.log [.began s])
        ⟨Recorder.setTable session t o'.state, o'.events ++ callEvents session (.recorder session) (p.arguments s)⟩ := by
  have words (n : Nat) (h : n < 2 ^ 53) : n < 2 ^ 64 := Nat.lt_trans h (by decide)
  obtain ⟨n, t, called, counted⟩ := h.counted.probe (words _ represented.1) (words _ represented.2)
  have noted : callEvents session (.recorder session) (p.arguments s) = [.recorded p.key s] := by
    simp only [callEvents, Recorder.target_arguments_of_lt represented.1 represented.2, if_true]
  have counts := Recorder.countOf_recordArgs h.counted.listed called
  rw [noted] at counts ⊢
  refine ⟨n, t, called, counted, fun range hr => ?_, ?_, fun range => ?_⟩
  · rcases List.mem_append.1 hr with before | now
    · exact h.begun range before
    · cases List.mem_singleton.1 now
      exact hs
  · rw [Traced.log, h.events, List.map_append]
    rfl
  · rw [counts, h.counts, Traced.log, List.count_append, List.count_append]
    by_cases this : s = range
    · simp [this]
      omega
    · simp [this]

end Exact

/-- What is noted of statements that begin: only those of the module that is run on a machine. -/
def Machine.noteBegun (m : Machine σ) (scope : Scope) (s : Program.Stmt) : List Event :=
  if scope.contains ⟨m.frames.size⟩ then [.began s.span] else []

/-- Of statements that begin nothing is noted. -/
def noteNone (_ : Scope) (_ : Program.Stmt) : List Event := []

namespace Probe

/-- A watched module with probes that is run beside itself without. -/
def besideWatched (p : Probe) (session : Nat) (m : Machine (Ledger τ)) (fits : Span → Prop) :
    Simulation (Traced (Ledger τ)) (Traced (Ledger τ)) where
  toWeave := p.weaveFrom session m fits
  agree := Exact session p.key fits m.host
  lead := .first

section

variable {other : Host (Ledger τ)} (blind : other.Blind) {p : Probe} {session : Nat} {m : Machine (Ledger τ)}
  {fits : Span → Prop}

include blind

theorem sameHosts_besideWatched (lead : Lead) :
    ((p.besideWatched session m fits).led lead).SameHosts ((Recorder.host other).traced session m.noteBegun)
      ((Recorder.host other).traced session noteNone) := by
  refine .traced (T := (p.besideWatched session m fits).led lead) blind Exact.overTables Exact.respects
    (fun scope s bare o o' h => ?_) fun _ _ _ => rfl
  have outside : m.noteBegun scope s = [] := if_neg (Bool.eq_false_iff.1 bare)
  rw [outside, noteNone, Traced.log_nil, Traced.log_nil]
  exact h

/-- A probe records the statement that begins. -/
theorem probed_watched (represented : ∀ s, fits s → s.IsExact) (lead : Lead) (n : Nat) (scope : Scope) (s : Program.Stmt)
    (enough : lead = .first → 3 ≤ n) (hg : globalFrame ∈ scope)
    (inside : (p.weaveFrom session m fits).isHome scope = true) (hs : fits s.span) :
    ((p.besideWatched session m fits).led lead).Follows (fun _ c => c = .normal)
      ((((Recorder.host other).traced session m.noteBegun).guarded p.recorder.name).begins scope s)
      ((Evaluator.ofFuel ((Recorder.host other).traced session noteNone) n).stmt scope [] (p.lowered s.span)) := by
  refine Simulation.Follows.probed (T := (p.besideWatched session m fits).led lead) hg (fun n captured => ?_)
    (fun n n' hn free => ?_) enough
  · exact congrFun (if_pos captured) n
  · have noted : m.noteBegun scope s = [.began s.span] := if_pos inside
    have begins : (((Recorder.host other).traced session m.noteBegun).guarded p.recorder.name).begins scope s n =
        .ok () (n.withHost (n.host.log [.began s.span])) := by
      refine (congrFun (if_neg (Bool.eq_false_iff.1 free)) n).trans ?_
      change (do Run.note (·.log (m.noteBegun scope s)); Run.inner (other.begins scope s) : Run (Traced (Ledger τ)) Unit) n = _
      rw [noted, blind.begins]
      rfl
    obtain ⟨k, t, called, agree⟩ := Exact.probe hn.host hs (represented _ hs)
    rw [begins]
    change Simulation.Matches _ _ _
      (((Recorder.host other).traced session noteNone).call (.recorder session) .undefined (p.arguments s.span) n')
    rw [Host.traced_recorder_of_ok called]
    exact .ok trivial (hn.withHost agree)

/-- Coverage is exact. A module and the module with probes diverge both, or they end with the same result or error,
and then the recorder was called with the ranges of the statements of the module that began, in the order in which
they began in the module without probes, and counted each of them as often as it began. -/
theorem coverage_exact (ready : m.Ready p session) (listed : (Recorder.table m.host session).contains p.key)
    {t : Source.Script} {program : Program} (lowers : t.lower = .ok program) (represented : ∀ s, fits s → s.IsExact)
    (binds : Program.Stmt.BodyBindsOnly (· ≠ p.recorder.name) fits program.body) {params : List String}
    (hps : ∀ name ∈ params, name ≠ p.recorder.name) (this : Value) (args : List Value)
    (free : ∀ n m', moduleRun ((Recorder.host other).guarded p.recorder.name) params program this args m n ≠
      .error .stopped m') :
    ∃ woven, (p.insert t).lower = .ok woven ∧
      (Diverges (moduleRun ((Recorder.host other).traced session m.noteBegun) params program this args m.watched) ∧
        Diverges (moduleRun ((Recorder.host other).traced session noteNone) params woven this args m.watched) ∨
      ∃ r r', Ends (moduleRun ((Recorder.host other).traced session m.noteBegun) params program this args m.watched) r ∧
        Ends (moduleRun ((Recorder.host other).traced session noteNone) params woven this args m.watched) r' ∧
        (p.weaveFrom session m fits).SameEnd (Exact session p.key fits m.host) r r') := by
  refine ⟨program.mapBodies p.weave, by rw [lower_insert, lowers]; rfl, ?_⟩
  have plain := Program.Stmt.bodyBindsOnly_mono (fun _ _ => trivial) binds
  have woven : Program.Stmt.BodyBindsOnly (· ≠ p.recorder.name) (fun _ => True) (program.mapBodies p.weave).body :=
    Program.Stmt.bodyBindsOnly_bodyMap (fun _ _ => trivial) p.bodyBindsOnly_weave binds
  have watched : m.watched.Ready p session := ready.withHost _
  -- Where the run of the module without probes is not stopped, neither is it when it is watched.
  have unstopped := (Simulation.Tracks.bare (T := (p.beside session Eq).watching) (h := m.watched.host) ready rfl
    (fun lead => ((sameHosts_beside blind lead).watched rfl session m.noteBegun).guarded_guarded rfl p.recorder.name)
    hps this args rfl plain free).unstopped
  have same (noted : Scope → Program.Stmt → List Event) (lead : Lead) :
      ((p.beside session Eq).led lead).SameHosts ((Recorder.host other).traced session noted)
        ((Recorder.host other).traced session noted) :=
    sameHosts_watched blind noted lead
  -- both runs are compared with the one that is stopped where the recorder is captured, which never is
  have erased := Simulation.Tracks.bare (T := p.beside session Eq) watched rfl
    (fun lead => (same m.noteBegun lead).guarded p.recorder.name) hps this args rfl plain unstopped
  have probed := Simulation.Tracks.woven (T := p.besideWatched session m fits) (h := m.watched.host) watched
    ⟨⟨rfl, listed⟩, nofun, rfl, fun _ => rfl⟩
    (fun lead => (sameHosts_besideWatched blind lead).guarded p.recorder.name) hps this args rfl
    (fun lead n scope s enough hg inside hs => probed_watched blind represented lead n scope s enough hg inside hs) binds
    unstopped
  have settled (noted : Scope → Program.Stmt → List Event) {program : Program}
      (hb : Program.Stmt.BodyBindsOnly (· ≠ p.recorder.name) (fun _ => True) program.body) :=
    Simulation.moduleRun_settled (T := p.beside session Eq) rfl rfl watched (same noted) hps hb this args
  refine (erased.both probed (settled m.noteBegun plain) (settled noteNone woven)).imp id ?_
  rintro ⟨r, r₁, r₂, ends₁, ends₂, same₁, same₂⟩
  obtain rfl := same₁.eq rfl
  exact ⟨r₁, r₂, ends₁, ends₂, same₂⟩

omit blind in
/-- It is so for the script `{ ; }`: its block is recorded, and then the statement in it. -/
theorem coverage_exact_nested_empty : ∃ woven, (NestedEmpty.probe.insert NestedEmpty.script).lower = .ok woven ∧
    ∃ m, Ends (moduleRun ((Recorder.host NestedEmpty.host).traced 0 noteNone) [] woven .undefined []
        NestedEmpty.machine.watched) (.ok () m) ∧
      m.host.events = [.recorded "m" ⟨0, 5⟩, .recorded "m" ⟨2, 3⟩] := by
  have represented : ∀ s : Span, s.IsExact → s.IsExact := fun _ h => h
  obtain ⟨woven, lowers, both⟩ := coverage_exact NestedEmpty.blind NestedEmpty.ready rfl NestedEmpty.lowers represented
    (NestedEmpty.binds ⟨by decide, by decide⟩ ⟨by decide, by decide⟩) NestedEmpty.params_avoid .undefined []
    NestedEmpty.free
  refine ⟨woven, lowers, ?_⟩
  rcases both with diverge | ⟨r, r', ends, ends', same⟩
  · obtain ⟨m, none⟩ := diverge.1 2
    cases none
  · obtain ⟨n, settled⟩ := ends.settled
    have value := settled (n + 2) (Nat.le_add_right n 2)
    subst value
    cases same with
    | ok _ h => exact ⟨_, ends', h.host.events⟩

end

end Probe

end ScriptCoverage
