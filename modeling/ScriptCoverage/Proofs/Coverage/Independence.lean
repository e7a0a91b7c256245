import ScriptCoverage.Proofs.Coverage.Counting
import ScriptCoverage.Proofs.Coverage.Orders
import ScriptCoverage.Proofs.Machine.Steadiness

/-!
Sessions beside each other. A call of a recorder changes no table but that of its own session, so behind any runs, and
any calls that the host makes between them or from its functions, every table is what the calls for its own session have
made of it (`CalledFor`). Main statement: `sessions_independent` — sessions without common modules may start in either
order, and then none of them changes what another one counts.
-/

namespace ScriptCoverage

open Machine (Evaluator Host OutsideCode Run Steadiness Task Value globalFrame machineOf)

variable {τ : Type}

namespace Recorder

/-! ### Calls for several sessions -/

/-- A table after a call that names a key and a range. A call that fails leaves it as it was. -/
def counted (t : Table Record) (call : String × Span) : Table Record :=
  match record t call.1 call.2 with
  | .ok (_, t') => t'
  | .error _ => t

/-- Of the calls for several sessions those for one of them. -/
def callsOf (session : Nat) (calls : List (Nat × String × Span)) : List (String × Span) :=
  (calls.filter fun call => call.1 = session).map Prod.snd

/-- Whether calls for some sessions lead from one ledger to another one: every table is what the calls for its own
session make of it. -/
def CalledFor (sessions : Nat → Bool) (l l' : Ledger τ) : Prop :=
  ∃ calls : List (Nat × String × Span), (∀ call ∈ calls, sessions call.1) ∧
    ∀ i, table l' i = (callsOf i calls).foldl counted (table l i)

theorem callsOf_append (i : Nat) (calls calls' : List (Nat × String × Span)) :
    callsOf i (calls ++ calls') = callsOf i calls ++ callsOf i calls' := by
  rw [callsOf, List.filter_append, List.map_append, callsOf, callsOf]

theorem callsOf_eq_nil {i : Nat} {calls : List (Nat × String × Span)} (h : ∀ call ∈ calls, call.1 ≠ i) :
    callsOf i calls = [] := by
  rw [callsOf, List.map_eq_nil_iff, List.filter_eq_nil_iff]
  simpa using h

/-- Calls that the host makes one after the other count in this way. -/
theorem table_recordAll (s : Session) (l : Ledger τ) (calls : List (String × Span)) :
    s.table (s.recordAll l calls) = calls.foldl counted (s.table l) := by
  induction calls generalizing l with
  | nil => rfl
  | cons call calls ih =>
    obtain ⟨key, r⟩ := call
    cases h : s.module? l key with
    | none =>
      have refused : counted (s.table l) (key, r) = s.table l := by
        rw [Session.module?] at h
        simp only [counted, record, h]
      rw [Session.recordAll_cons_of_unknown h, ih, List.foldl_cons, refused]
    | some old =>
      have hit : counted (s.table l) (key, r) = (s.table l).put key (old.hit r) := by
        rw [Session.module?] at h
        simp only [counted, record, h]
      rw [Session.recordAll_cons_of_known h, ih, Session.table_recorded h, List.foldl_cons, hit]

namespace CalledFor

variable {sessions : Nat → Bool} {l l' l'' : Ledger τ}

theorem of_tables_eq (h : ∀ i, table l' i = table l i) : CalledFor sessions l l' := ⟨[], nofun, h⟩

theorem refl (l : Ledger τ) : CalledFor sessions l l := of_tables_eq fun _ => rfl

theorem trans (h : CalledFor sessions l l') (h' : CalledFor sessions l' l'') : CalledFor sessions l l'' := by
  obtain ⟨calls, own, made⟩ := h
  obtain ⟨calls', own', made'⟩ := h'
  refine ⟨calls ++ calls', fun call hc => (List.mem_append.1 hc).elim (own call) (own' call), fun i => ?_⟩
  rw [made', made, callsOf_append, List.foldl_append]

/-- Nothing is counted for other sessions. -/
theorem table_eq (h : CalledFor sessions l l') {i : Nat} (other : sessions i = false) : table l' i = table l i := by
  obtain ⟨calls, own, made⟩ := h
  have none : callsOf i calls = [] := callsOf_eq_nil fun call hc same => by
    have := own call hc
    rw [same, other] at this
    cases this
  rw [made, none, List.foldl_nil]

/-- A call that succeeds counts for its own session. -/
theorem record {i n : Nat} {key : String} {r : Span} {t : Table Record} (own : sessions i)
    (h : Recorder.record (table l i) key r = .ok (n, t)) : CalledFor sessions l (setTable i t l) := by
  refine ⟨[(i, key, r)], by simpa using own, fun j => ?_⟩
  have listed : (table l i).contains key := by
    rw [Recorder.record] at h
    split at h
    · next old here => exact (Table.contains_iff_get? _ _).2 ⟨old, here⟩
    · cases h
  by_cases this : i = j
  · subst this
    have calls : callsOf i [(i, key, r)] = [(key, r)] := by simp [callsOf]
    rw [table_setTable listed, calls, List.foldl_cons, List.foldl_nil, counted, h]
  · rw [table_setTable_of_ne this, callsOf_eq_nil (by simpa using this), List.foldl_nil]

theorem recordArgs {i n : Nat} {args : List Value} {t : Table Record} (own : sessions i)
    (h : Recorder.recordArgs (table l i) args = .ok (n, t)) : CalledFor sessions l (setTable i t l) := by
  rw [Recorder.recordArgs] at h
  cases named : target args with
  | error e =>
    rw [named] at h
    cases h
  | ok x =>
    rw [named] at h
    exact .record own h

end CalledFor

/-! ### Runs -/

/-- A host that knows the recorders of some sessions. -/
def hostFor (sessions : Nat → Bool) (other : Host (Ledger τ)) : Host (Ledger τ) where
  call f this args :=
    match f with
    | .recorder i => if sessions i then call i args else other.call (.recorder i) this args
    | f => other.call f this args
  begins := other.begins
  loads := other.loads

theorem hostFor_all (other : Host (Ledger τ)) : hostFor (fun _ => true) other = host other := by
  unfold hostFor host
  congr 1

/-- Changes of the ledger by calls for some sessions. -/
def countingFor (sessions : Nat → Bool) : Steadiness (Ledger τ) where
  Holds _ := True
  Small m m' := CalledFor sessions m.host m'.host
  Stops := True
  refl m := .refl m.host
  trans := .trans
  holds _ _ := trivial
  memory _ _ _ := .refl _
  bind _ _ _ _ _ := .refl _
  aside m _ _ := .refl m.host
  opens _ _ := trivial
  fresh _ := trivial
  enters _ _ := trivial
  leaves := id

instance (sessions : Nat → Bool) : (countingFor sessions : Steadiness (Ledger τ)).congruence.Everywhere :=
  ⟨fun _ => trivial⟩

instance (sessions : Nat → Bool) : (countingFor sessions : Steadiness (Ledger τ)).congruence.OwnsAll :=
  ⟨fun _ => trivial⟩

/-- Whether the functions of a host, by themselves and in what they ask for, count for some sessions only. -/
def CountsFor (sessions : Nat → Bool) (other : Host (Ledger τ)) : Prop :=
  other.Outside (fun m m' => CalledFor sessions m.host m'.host) fun _ => True

/-- Counts what the arguments of a call name. The result is the error that the call ends with, if there is one. -/
def tryCount (session : Nat) (args : List Value) : Run (Ledger τ) (Option Machine.RuntimeError) := fun m =>
  match recordArgs (table m.host session) args with
  | .ok (_, t) => .ok none (m.withHost (setTable session t m.host))
  | .error e => .ok (some (e.toFatal m.heap)) m

theorem call_eq (session : Nat) (args : List Value) : (call session args : Run (Ledger τ) Value) =
    tryCount session args >>= fun failed => (failed.map Run.fail).getD (pure .undefined) := by
  funext m
  change _ = EStateM.bind (tryCount session args) _ m
  unfold EStateM.bind tryCount
  cases h : recordArgs (table m.host session) args with
  | error e => exact call_of_error h
  | ok x => exact call_of_ok h

section
variable {sessions : Nat → Bool}

theorem outside_call {i : Nat} (own : sessions i) (args : List Value) :
    OutsideCode (fun m m' : Machine (Ledger τ) => CalledFor sessions m.host m'.host) (fun _ => True) (call i args) := by
  rw [call_eq]
  refine .bind (.step fun m => ?_) fun failed => ?_
  · unfold tryCount
    cases h : Recorder.recordArgs (table m.host i) args with
    | error e => exact ⟨_, m, rfl, .refl m.host⟩
    | ok x => exact ⟨_, _, rfl, .recordArgs own h⟩
  · cases failed with
    | none => exact .step fun m => ⟨_, m, rfl, .refl m.host⟩
    | some e => exact .fail e

theorem countsFor_hostFor {other : Host (Ledger τ)} (outside : CountsFor sessions other) :
    CountsFor sessions (hostFor sessions other) where
  call f this args := by
    cases f with
    | recorder i =>
      change OutsideCode _ _ (if sessions i then call i args else other.call (.recorder i) this args)
      split
      · next own => exact outside_call own args
      · exact outside.call ..
    | named name => exact outside.call ..
  begins := outside.begins
  loads := outside.loads

/-- Whatever a host asks for, with functions that count for some sessions only, counts for these sessions only. -/
theorem calledFor_task {other : Host (Ledger τ)} (outside : CountsFor sessions other) (n : Nat) (t : Task)
    (m : Machine (Ledger τ)) :
    CalledFor sessions m.host (machineOf (t.run (Evaluator.ofFuel (hostFor sessions other) n) m)).host := by
  have tolerates : (countingFor sessions).congruence.Tolerates
      (fun m m' : Machine (Ledger τ) => CalledFor sessions m.host m'.host) fun _ => True :=
    (countingFor sessions).tolerates fun _ _ => .inl trivial
  have ends : (countingFor sessions).Follows (t.run (Evaluator.watched (hostFor sessions other) (fun _ => false) n))
      (t.run (Evaluator.watched (hostFor sessions other) (fun _ => false) n)) :=
    tolerates.task (countsFor_hostFor outside) (tolerates.watched trivial) n t
  rw [Evaluator.watched_never] at ends
  exact (ends m trivial).small

end

end Recorder

namespace Session

/-! ### Runs and calls in between -/

/-- The machines that come of a machine when its host asks for one thing after the other and calls recorders of some
sessions in between. What it asks for may count for these sessions only: it comes to the same with a host that knows
only their recorders. -/
inductive Interleaved (sessions : Nat → Bool) (m : Machine (Ledger τ)) : Machine (Ledger τ) → Prop
  | nothing : Interleaved sessions m m
  | ran {m₁ : Machine (Ledger τ)} (before : Interleaved sessions m m₁) {real other : Host (Ledger τ)}
    (outside : Recorder.CountsFor sessions other) (t : Task) (n : Nat)
    (same : t.run (Evaluator.ofFuel (Recorder.host real) n) m₁ =
      t.run (Evaluator.ofFuel (Recorder.hostFor sessions other) n) m₁) :
    Interleaved sessions m (machineOf (t.run (Evaluator.ofFuel (Recorder.host real) n) m₁))
  | recorded {m₁ : Machine (Ledger τ)} (before : Interleaved sessions m m₁) {s : Session} (own : sessions s.number)
    {key : String} {r : Span} {n : Nat} {l : Ledger τ} (h : s.record m₁.host key r = .ok (n, l)) :
    Interleaved sessions m (m₁.withHost l)
  | recordedArgs {m₁ : Machine (Ledger τ)} (before : Interleaved sessions m m₁) {s : Session} (own : sessions s.number)
    {args : List Value} {n : Nat} {l : Ledger τ} (h : s.recordArgs m₁.host args = .ok (n, l)) :
    Interleaved sessions m (m₁.withHost l)

/-- A call that the host makes and that succeeds puts the table of the session back into the ledger. -/
theorem exists_setTable {number n : Nat} {l l' : Ledger τ} {x : Except CoverageError (Nat × Table Record)}
    (h : x.map (fun counted => (counted.1, Recorder.setTable number counted.2 l)) = .ok (n, l')) :
    ∃ t, x = .ok (n, t) ∧ l' = Recorder.setTable number t l := by
  cases x with
  | error e => cases h
  | ok counted =>
    cases h
    exact ⟨counted.2, rfl, rfl⟩

/-- Every table is what the calls for its own session have made of it. -/
theorem Interleaved.calledFor {sessions : Nat → Bool} {m m' : Machine (Ledger τ)} (h : Interleaved sessions m m') :
    Recorder.CalledFor sessions m.host m'.host := by
  induction h with
  | nothing => exact .refl m.host
  | ran before outside t n same ih =>
    rw [same]
    exact ih.trans (Recorder.calledFor_task outside n t _)
  | recorded before own h ih =>
    obtain ⟨t, called, rfl⟩ := exists_setTable h
    exact ih.trans (.record own called)
  | recordedArgs before own h ih =>
    obtain ⟨t, called, rfl⟩ := exists_setTable h
    exact ih.trans (.recordArgs own called)

/-! ### Independence -/

/-- Whether calls of the recorder of a session leave the table of another one as it is: calls by scripts, whether they
succeed or fail, and calls by the host. -/
structure LeavesAlone (s s' : Session) : Prop where
  call : ∀ {τ : Type} args (m : Machine (Ledger τ)),
    s'.table (machineOf (Recorder.call s.number args m)).host = s'.table m.host
  record : ∀ {τ : Type} {key r n} {l l' : Ledger τ}, s.record l key r = .ok (n, l') → s'.table l' = s'.table l
  recordArgs : ∀ {τ : Type} {args n} {l l' : Ledger τ}, s.recordArgs l args = .ok (n, l') → s'.table l' = s'.table l

/-- Whether two sessions count independently from a machine on. A call of the recorder of one of them never changes the
table of the other one; after runs and calls in between that spare the recorder of one of them its table is what it was;
and after any of them both tables come of the calls for their own sessions, made one after the other. -/
structure Independent (s s' : Session) (m : Machine (Ledger τ)) : Prop where
  number : s.number ≠ s'.number
  leaves : s.LeavesAlone s'
  left : s'.LeavesAlone s
  spared : ∀ {sessions m'}, Interleaved sessions m m' →
    (sessions s.number = false → s.table m'.host = s.table m.host) ∧
    (sessions s'.number = false → s'.table m'.host = s'.table m.host)
  counted : ∀ {sessions m'}, Interleaved sessions m m' → ∃ calls : List (Nat × String × Span),
    (∀ call ∈ calls, sessions call.1) ∧
    s.table m'.host = s.table (s.recordAll m.host (Recorder.callsOf s.number calls)) ∧
    s'.table m'.host = s'.table (s'.recordAll m.host (Recorder.callsOf s'.number calls))

variable {s s' : Session} {m : Machine (Ledger τ)}

theorem leavesAlone_of_ne (ne : s.number ≠ s'.number) : s.LeavesAlone s' where
  call args m := by
    cases h : Recorder.recordArgs (Recorder.table m.host s.number) args with
    | error e =>
      rw [Recorder.call_of_error h]
      rfl
    | ok x =>
      rw [Recorder.call_of_ok h]
      exact Recorder.table_setTable_of_ne ne x.2 m.host
  record h := by
    obtain ⟨t, -, rfl⟩ := exists_setTable h
    exact Recorder.table_setTable_of_ne ne t _
  recordArgs h := by
    obtain ⟨t, -, rfl⟩ := exists_setTable h
    exact Recorder.table_setTable_of_ne ne t _

theorem independent_of_ne (ne : s.number ≠ s'.number) (m : Machine (Ledger τ)) : s.Independent s' m where
  number := ne
  leaves := leavesAlone_of_ne ne
  left := leavesAlone_of_ne (Ne.symm ne)
  spared h := ⟨h.calledFor.table_eq, h.calledFor.table_eq⟩
  counted h := by
    obtain ⟨calls, own, made⟩ := h.calledFor
    refine ⟨calls, own, ?_, ?_⟩
    · rw [Recorder.table_recordAll]
      exact made s.number
    · rw [Recorder.table_recordAll]
      exact made s'.number

/-- Sessions over disjoint modules are independent. Where the names of their recorders are free and different, and no
module is selected by both, they may start in either order: each of them starts, with the same table, or fails with the
same error; what is registered, what is loaded and all else that was there come to the same. From then on they count
independently. -/
theorem sessions_independent (c d : Config) (generated generated' : String) (m : Machine (Ledger τ))
    (h : Separate c d generated generated' m) :
    let both := attemptBoth c d generated generated' m
    let both' := attemptBoth d c generated' generated m
    (SameStart (c.recorderName.getD generated) both.after both'.after both.first both'.second ∧
      SameStart (d.recorderName.getD generated') both.after both'.after both.second both'.first) ∧
    (both'.after.registry = both.after.registry ∧ both'.after.loaded = both.after.loaded ∧
      SameBut [c.recorderName.getD generated, d.recorderName.getD generated'] m both.after both'.after) ∧
    (∀ s s', both.first = .ok s → both.second = .ok s' → s.Independent s' both.after) ∧
    ∀ s s', both'.first = .ok s' → both'.second = .ok s → s.Independent s' both'.after := by
  obtain ⟨first, second, registry, loaded, same⟩ := starts_commute h
  refine ⟨⟨first, second⟩, ⟨registry, loaded, same⟩, fun s s' started started' => ?_, fun s s' started' started => ?_⟩
  · exact independent_of_ne (numbers_ne h started started') _
  · exact independent_of_ne (numbers_ne h.symm started' started).symm _

/-! ### Two modules -/

namespace TwoModules

/-- A machine with a module in each of two components. -/
def machine : Machine (Ledger Unit) := OneModule.machine.register "n/index.js" OneModule.factory

def first : Config := { component := "m", recorderName := some "cov" }

def second : Config := { component := "n", recorderName := some "hits" }

theorem separate : Separate first second "" "" machine where
  names := by decide
  free := by decide
  free' := by decide
  modules key there := by
    have listed : key = "m/index.js" ∨ key = "n/index.js" := by
      rw [Table.contains_iff_mem, show machine.registry.keys = ["m/index.js", "n/index.js"] from rfl] at there
      simpa using there
    rcases listed with rfl | rfl <;> decide

theorem sortedKeys_eq : machine.registry.sortedKeys = ["m/index.js", "n/index.js"] :=
  Table.sortedKeys_of_ascending machine.registry (by decide +kernel)

theorem collect_first : collect machine.registry first.component first.depsDir =
    collectFrom first.component [("m/index.js", OneModule.factory)] := by
  rw [collect, selectFactories, sortedKeys_eq]
  exact congrArg (collectFrom first.component) (by decide +kernel)

theorem collect_second : collect machine.registry second.component second.depsDir =
    collectFrom second.component [("n/index.js", OneModule.factory)] := by
  rw [collect, selectFactories, sortedKeys_eq]
  exact congrArg (collectFrom second.component) (by decide +kernel)

/-- What the starts of both sessions come to, by the modules that they select. -/
def attempts : Attempts Unit :=
  let name := first.recorderName.getD ""
  let name' := second.recorderName.getD ""
  let v := Verdict.of name (collectFrom first.component [("m/index.js", OneModule.factory)])
  let w := Verdict.of name' (collectFrom second.component [("n/index.js", OneModule.factory)])
  { first := v.result first.component name machine.host.tables.size
    second := w.result second.component name' (v.machine name machine).host.tables.size
    after := w.machine name' (v.machine name machine) }

theorem attemptBoth_eq_attempts : attemptBoth first second "" "" machine = attempts := by
  rw [attemptBoth_eq separate]
  simp only [Config.verdict, collect_first, collect_second, attempts]

/-- Whether both sessions start, the first one can count a range, and then its module can be loaded. -/
def counts (both : Attempts Unit) : Bool :=
  match both.first, both.second with
  | .ok s, .ok _ =>
    match s.record both.after.host "m/index.js" ⟨1, 15⟩ with
    | .ok (_, l) => OneModule.succeeds (·.loaded.contains "m/index.js")
      ((Task.require none "m").run (Evaluator.ofFuel (Recorder.host NestedEmpty.host) 30) (both.after.withHost l))
    | .error _ => false
  | _, _ => false

theorem countsFor (sessions : Nat → Bool) : Recorder.CountsFor sessions NestedEmpty.host where
  call _ _ _ := .step fun m => ⟨.undefined, m, rfl, .refl m.host⟩
  begins _ _ := .step fun m => ⟨(), m, rfl, .refl m.host⟩
  loads _ m := .refl m.host

end TwoModules

open TwoModules in
/-- It is so for two modules: both sessions start, a call for the first one by the host leaves the table of the second
one alone, and the module of the first one can be loaded behind it. -/
theorem sessions_independent_two_modules :
    let both := attemptBoth first second "" "" machine
    (attemptBoth second first "" "" machine).after.registry = both.after.registry ∧
    ∃ s s', both.first = .ok s ∧ both.second = .ok s' ∧ s.Independent s' both.after ∧
      ∃ n l m', s.record both.after.host "m/index.js" ⟨1, 15⟩ = .ok (n, l) ∧ s'.table l = s'.table both.after.host ∧
        Interleaved (fun _ => true) both.after m' ∧ m'.loaded.contains "m/index.js" := by
  intro both
  obtain ⟨-, ⟨registry, -, -⟩, independent, -⟩ :=
    sessions_independent first second "" "" machine separate
  refine ⟨registry, ?_⟩
  have runs : counts both = true := by
    rw [show both = attempts from attemptBoth_eq_attempts]
    decide +kernel
  unfold counts at runs
  split at runs
  · next s s' started started' =>
    split at runs
    · next n l recorded =>
      have counting := independent s s' started started'
      obtain ⟨v, m', ran, loaded⟩ := OneModule.exists_of_succeeds runs
      have interleaved : Interleaved (fun _ => true) both.after (machineOf ((Task.require none "m").run
          (Evaluator.ofFuel (Recorder.host NestedEmpty.host) 30) (both.after.withHost l))) :=
        .ran (.recorded .nothing rfl recorded) (countsFor _) (.require none "m") 30 (by rw [Recorder.hostFor_all])
      rw [ran] at interleaved
      exact ⟨s, s', started, started', counting, n, l, m', recorded, counting.leaves.record recorded, interleaved,
        loaded⟩
    · cases runs
  · cases runs

end Session

end ScriptCoverage
