import ScriptCoverage.Proofs.Coverage.Capture
import ScriptCoverage.Proofs.Coverage.Exactness

/-!
What a recorder has counted after any calls of it. Main statement: `recorder_counts_exactly` — of a session that has
just started, each call counts the range that it names in the module that it names and changes nothing else, so that
afterwards every counter is the number of its calls, in whatever order they came.
-/

namespace ScriptCoverage

open Source (Script)

variable {τ : Type}

/-! ### What is seen of a record -/

/-- What a record shows, with its counters in the order of their keys. -/
structure Record.Snapshot where
  key : String
  component : String
  source : String
  ranges : List Span
  covered : List (String × Nat)
  uncovered : List (String × Nat)
  instrumented : String
  deriving DecidableEq

namespace Record

def snapshot (r : Record) : Snapshot :=
  ⟨r.key, r.component, r.source, r.ranges, r.covered.ascending, r.uncovered.ascending, r.instrumented⟩

variable {r r' : Record} {s : Span}

/-- Records with the same texts and ranges show the same if their counters are the same. -/
theorem snapshot_eq (same : r.uncounted = r'.uncounted) (covered : r.covered.ascending = r'.covered.ascending)
    (uncovered : r.uncovered.ascending = r'.uncovered.ascending) : r.snapshot = r'.snapshot := by
  have rest := (mk.injEq ..).mp same
  obtain ⟨key, component, source, -, ranges, -, -, instrumented⟩ := rest
  rw [snapshot, snapshot, key, component, source, ranges, covered, uncovered, instrumented]

/-! ### Hits -/

/-- A record after hits of ranges. -/
def hitAll (r : Record) (ss : List Span) : Record := ss.foldl hit r

theorem after_hits (r : Record) (as : List Action) (ss : List Span) :
    r.after (as ++ ss.map .hit) = (r.after as).hitAll ss := by
  rw [after, List.foldl_append, List.foldl_map]
  rfl

theorem uncounted_hitAll (r : Record) (ss : List Span) : (r.hitAll ss).uncounted = r.uncounted := by
  induction ss generalizing r with
  | nil => rfl
  | cons s ss ih => exact ih (r.hit s)

theorem count_hitAll (r : Record) (ss : List Span) (s : Span) : (r.hitAll ss).count s = r.count s + ss.count s := by
  induction ss generalizing r with
  | nil => rfl
  | cons t ss ih =>
    rw [hitAll, List.foldl_cons, ← hitAll, ih, count_hit, List.count_cons]
    by_cases here : t = s
    · simp [here]
      omega
    · simp [here]

/-- No key comes twice in the tables of a record. -/
structure Distinct (r : Record) : Prop where
  covered : r.covered.keys.Nodup
  uncovered : r.uncovered.keys.Nodup

theorem Distinct.hit (h : r.Distinct) (s : Span) : (r.hit s).Distinct where
  covered := Table.nodup_keys_put _ _ _ h.covered
  uncovered := Table.nodup_keys_erase _ _ h.uncovered

theorem Distinct.hitAll (h : r.Distinct) (ss : List Span) : (r.hitAll ss).Distinct := by
  induction ss generalizing r with
  | nil => exact h
  | cons s ss ih => exact ih (h.hit s)

theorem Distinct.foldl_addRange (h : r.Distinct) (ss : List Span) : (ss.foldl addRange r).Distinct := by
  induction ss generalizing r with
  | nil => exact h
  | cons s ss ih => exact ih ⟨h.covered, Table.nodup_keys_put _ _ _ h.uncovered⟩

theorem distinct_cover (key component source : String) (t : Script) (recorder : Identifier) :
    ((ofScript key component source t).cover recorder).Distinct := by
  have inserted : ((ofScript key component source t).insert recorder).Distinct := by
    refine Distinct.foldl_addRange (r := { ofScript key component source t with
      tree := some (Probe.insert ⟨recorder, key⟩ t) }) ⟨?_, ?_⟩ _
    · exact List.nodup_nil
    · exact List.nodup_nil
  constructor
  · rw [cover, covered_regenerate]
    exact inserted.covered
  · rw [cover, uncovered_regenerate]
    exact inserted.uncovered

end Record

/-! ### Calls that the host makes -/

namespace Session

/-- The ledger after calls of a recorder that the host made one after the other. A call that fails leaves it as it
was. -/
def recordAll (s : Session) (l : Ledger τ) : List (String × Span) → Ledger τ
  | [] => l
  | (key, r) :: calls =>
    match s.record l key r with
    | .ok (_, l) => s.recordAll l calls
    | .error _ => s.recordAll l calls

/-- The ranges that calls name in a module. -/
def rangesIn (key : String) (calls : List (String × Span)) : List Span :=
  (calls.filter fun call => call.1 = key).map Prod.snd

theorem count_rangesIn (key : String) (r : Span) (calls : List (String × Span)) :
    (rangesIn key calls).count r = calls.count (key, r) := by
  induction calls with
  | nil => rfl
  | cons call calls ih =>
    obtain ⟨name, r'⟩ := call
    by_cases this : name = key
    · subst this
      have same : rangesIn name ((name, r') :: calls) = r' :: rangesIn name calls := by simp [rangesIn]
      rw [same, List.count_cons, List.count_cons, ih]
      simp
    · have same : rangesIn key ((name, r') :: calls) = rangesIn key calls := by simp [rangesIn, this]
      rw [same, List.count_cons, ih]
      simp [this]

/-- What a call for a module that is there changes: in its record one counter, and the range that ran is taken out of
those that did not. -/
structure Counts (s : Session) (l : Ledger τ) (key : String) (r : Span) (n : Nat) (l' : Ledger τ) : Prop where
  record : ∃ old new, s.module? l key = some old ∧ s.module? l' key = some new ∧ new.uncounted = old.uncounted ∧
    (∀ name, new.covered.get? name = if r.key = name then some n else old.covered.get? name) ∧
    ∀ name, new.uncovered.get? name = if r.key = name then none else old.uncovered.get? name
  others : ∀ name, name ≠ key → s.module? l' name = s.module? l name
  keys : (s.table l').keys = (s.table l).keys
  sessions : ∀ i, i ≠ s.number → Recorder.table l' i = Recorder.table l i
  rest : l'.rest = l.rest

variable {s : Session} {l : Ledger τ} {key : String}

theorem record_of_unknown (h : s.module? l key = none) (r : Span) :
    s.record l key r = .error (.unknownModule key) := by
  rw [module?] at h
  rw [Session.record, Recorder.record, h]
  rfl

/-- The ledger after a call for a module that is there. -/
def recorded (s : Session) (l : Ledger τ) (key : String) (old : Record) (r : Span) : Ledger τ :=
  Recorder.setTable s.number ((s.table l).put key (old.hit r)) l

theorem record_of_known {old : Record} (h : s.module? l key = some old) (r : Span) :
    s.record l key r = .ok (old.count r + 1, s.recorded l key old r) := by
  have counted : (old.hit r).count r = old.count r + 1 := by rw [Record.count_hit, if_pos rfl]
  rw [module?] at h
  rw [Session.record, Recorder.record, h]
  change Except.ok ((old.hit r).count r, _) = _
  rw [counted]
  rfl

theorem table_recorded {old : Record} (h : s.module? l key = some old) (r : Span) :
    s.table (s.recorded l key old r) = (s.table l).put key (old.hit r) :=
  Recorder.table_setTable ((Table.contains_iff_get? _ _).2 ⟨old, h⟩) _

theorem module?_recorded {old : Record} (h : s.module? l key = some old) (r : Span) (name : String) :
    s.module? (s.recorded l key old r) name = if key = name then some (old.hit r) else s.module? l name := by
  rw [module?, table_recorded h, Table.get?_put]
  rfl

theorem counts_recorded {old : Record} (h : s.module? l key = some old) (r : Span) :
    s.Counts l key r (old.count r + 1) (s.recorded l key old r) where
  record := by
    refine ⟨old, old.hit r, h, ?_, rfl, fun name => ?_, fun name => ?_⟩
    · rw [module?_recorded h, if_pos rfl]
    · exact Table.get?_put _ _ _ _
    · exact Table.get?_erase _ _ _
  others name other := by rw [module?_recorded h, if_neg (Ne.symm other)]
  keys := by rw [table_recorded h, Table.keys_put_of_contains _ _ _ ((Table.contains_iff_get? _ _).2 ⟨old, h⟩)]
  sessions i other := Recorder.table_setTable_of_ne (Ne.symm other) _ _
  rest := rfl

/-! ### All calls -/

theorem recordAll_cons_of_unknown (h : s.module? l key = none) (r : Span) (calls : List (String × Span)) :
    s.recordAll l ((key, r) :: calls) = s.recordAll l calls := by
  rw [recordAll, record_of_unknown h]

theorem recordAll_cons_of_known {old : Record} (h : s.module? l key = some old) (r : Span)
    (calls : List (String × Span)) :
    s.recordAll l ((key, r) :: calls) = s.recordAll (s.recorded l key old r) calls := by
  rw [recordAll, record_of_known h]

theorem recordAll_append (s : Session) (l : Ledger τ) (calls calls' : List (String × Span)) :
    s.recordAll l (calls ++ calls') = s.recordAll (s.recordAll l calls) calls' := by
  induction calls generalizing l with
  | nil => rfl
  | cons call calls ih =>
    obtain ⟨key, r⟩ := call
    rw [List.cons_append]
    cases h : s.module? l key with
    | none => rw [recordAll_cons_of_unknown h, recordAll_cons_of_unknown h, ih]
    | some old => rw [recordAll_cons_of_known h, recordAll_cons_of_known h, ih]

/-- Calls hit the ranges that they name, each in its module. -/
theorem module?_recordAll (s : Session) (l : Ledger τ) (calls : List (String × Span)) (name : String) :
    s.module? (s.recordAll l calls) name = (s.module? l name).map (·.hitAll (rangesIn name calls)) := by
  induction calls generalizing l with
  | nil => exact Option.map_id_apply.symm
  | cons call calls ih =>
    obtain ⟨key, r⟩ := call
    by_cases this : key = name
    · subst this
      have ranges : rangesIn key ((key, r) :: calls) = r :: rangesIn key calls := by simp [rangesIn]
      cases h : s.module? l key with
      | none => rw [recordAll_cons_of_unknown h, ih, h, Option.map_none, Option.map_none]
      | some old =>
        rw [recordAll_cons_of_known h, ih, module?_recorded h, if_pos rfl, ranges]
        rfl
    · have ranges : rangesIn name ((key, r) :: calls) = rangesIn name calls := by simp [rangesIn, this]
      rw [ranges]
      cases h : s.module? l key with
      | none => rw [recordAll_cons_of_unknown h, ih]
      | some old => rw [recordAll_cons_of_known h, ih, module?_recorded h, if_neg this]

/-- Calls add no module, and change no other session. -/
theorem recordAll_frame (s : Session) (l : Ledger τ) (calls : List (String × Span)) :
    (s.table (s.recordAll l calls)).keys = (s.table l).keys ∧
      (∀ i, i ≠ s.number → Recorder.table (s.recordAll l calls) i = Recorder.table l i) ∧
      (s.recordAll l calls).rest = l.rest := by
  induction calls generalizing l with
  | nil => exact ⟨rfl, fun _ _ => rfl, rfl⟩
  | cons call calls ih =>
    obtain ⟨key, r⟩ := call
    cases h : s.module? l key with
    | none =>
      rw [recordAll_cons_of_unknown h]
      exact ih l
    | some old =>
      have step := counts_recorded h r
      obtain ⟨keys, sessions, rest⟩ := ih (s.recorded l key old r)
      rw [recordAll_cons_of_known h]
      refine ⟨keys.trans step.keys, fun i other => ?_, rest.trans step.rest⟩
      rw [sessions i other, step.sessions i other]

theorem sortedKeys_recordAll (s : Session) (l : Ledger τ) (calls : List (String × Span)) :
    (s.table (s.recordAll l calls)).sortedKeys = (s.table l).sortedKeys := by
  rw [Table.sortedKeys, Table.sortedKeys, (recordAll_frame s l calls).1]

/-- Calls with the same effect on what each record shows have the same effect on what the session shows. -/
theorem snapshots_recordAll_congr {calls calls' : List (String × Span)}
    (same : ∀ key old, s.module? l key = some old →
      (old.hitAll (rangesIn key calls)).snapshot = (old.hitAll (rangesIn key calls')).snapshot) :
    (s.modules (s.recordAll l calls)).map Record.snapshot = (s.modules (s.recordAll l calls')).map Record.snapshot := by
  rw [modules, modules, Table.sortedValues, Table.sortedValues, sortedKeys_recordAll, sortedKeys_recordAll,
    List.map_filterMap, List.map_filterMap]
  refine List.filterMap_congr fun key _ => ?_
  change (s.module? _ key).map Record.snapshot = (s.module? _ key).map Record.snapshot
  rw [module?_recordAll, module?_recordAll]
  cases here : s.module? l key with
  | none => rfl
  | some old => exact congrArg some (same key old here)

end Session

/-! ### From the start of a session -/

namespace Record

variable {key component source : String} {t : Script} {recorder : Identifier}

theorem count_cover (s : Span) : ((ofScript key component source t).cover recorder).count s = 0 := by
  rw [Record.count, Record.cover, Record.covered_regenerate, Record.covered_insert]
  rfl

theorem cover_eq_after (r : Record) (recorder : Identifier) :
    r.cover recorder = r.after [.insert recorder, .regenerate] := rfl

/-- Behind the only insertion into a record a range is one that did not run iff it is not hit. -/
theorem listedUnhit_covered (s : Span) (ss : List Span) :
    (ofScript key component source t).ListedUnhit s ([.insert recorder, .regenerate] ++ ss.map .hit) ↔
      s ∈ ((ofScript key component source t).cover recorder).ranges ∧ s ∉ ss := by
  -- on the hits from the last one back: each takes its range out of those that did not run
  induction ss using List.reverseRecOn with
  | nil =>
    have inserted : (ofScript key component source t).ListedUnhit s ([] ++ [.insert recorder]) ↔
        (ofScript key component source t).Lists s := by
      rw [listedUnhit_concat]
      simp [ListedUnhit.nil]
    have covered : s ∈ ((ofScript key component source t).cover recorder).ranges ↔
        (ofScript key component source t).Lists s := by
      rw [cover, ranges_regenerate, mem_ranges_insert]
      simp [ofScript]
    change (ofScript key component source t).ListedUnhit s (([] ++ [.insert recorder]) ++ [.regenerate]) ↔ _
    rw [listedUnhit_concat, inserted, covered]
    simp
  | append_singleton ss hitten ih =>
    rw [List.map_append, ← List.append_assoc, List.map_singleton, listedUnhit_concat, ih]
    simp only [reduceCtorEq, exists_false, false_and, false_or, ne_eq, Action.hit.injEq, List.mem_append,
      List.mem_singleton, not_or, and_assoc, eq_comm]

/-- Whether a record is what an old one became by calls for its key: the same but for its counters, which are those of
the ranges that were called and say how often each of them was, and its ranges that did not run, which are those that
were not called. -/
structure Called (calls : List (String × Span)) (key : String) (old new : Record) : Prop where
  uncounted : new.uncounted = old.uncounted
  covered : ∀ name n, new.covered.get? name = some n ↔
    n ≠ 0 ∧ ∃ r : Span, r.key = name ∧ n = calls.count (key, r)
  uncovered : ∀ name n, new.uncovered.get? name = some n ↔
    n = 0 ∧ ∃ r ∈ old.ranges, r.key = name ∧ (key, r) ∉ calls

theorem called_hitAll (calls : List (String × Span)) (key : String) {key' : String} :
    Called calls key ((ofScript key' component source t).cover recorder)
      (((ofScript key' component source t).cover recorder).hitAll (Session.rangesIn key calls)) := by
  have history : ((ofScript key' component source t).cover recorder).hitAll (Session.rangesIn key calls) =
      (ofScript key' component source t).after
        ([.insert recorder, .regenerate] ++ (Session.rangesIn key calls).map .hit) := by
    rw [after_hits, cover_eq_after]
  have counts (r : Span) : ([Action.insert recorder, .regenerate] ++ (Session.rangesIn key calls).map Action.hit).count
      (.hit r) = calls.count (key, r) := by
    have hits : ((Session.rangesIn key calls).map Action.hit).count (.hit r) = (Session.rangesIn key calls).count r :=
      List.count_map_of_injective _ _ (fun _ _ h => Action.hit.inj h) _
    rw [List.count_append, hits, Session.count_rangesIn]
    simp
  have called (r : Span) : r ∈ Session.rangesIn key calls ↔ (key, r) ∈ calls := by
    rw [← List.count_pos_iff, Session.count_rangesIn, List.count_pos_iff]
  refine ⟨uncounted_hitAll _ _, fun name n => ?_, fun name n => ?_⟩
  · rw [history, get?_covered_after]
    simp only [counts]
  · rw [history, get?_uncovered_after]
    simp only [listedUnhit_covered, called]
    refine and_congr_right fun _ => exists_congr fun r => ?_
    constructor
    · rintro ⟨name, listed, uncalled⟩
      exact ⟨listed, name, uncalled⟩
    · rintro ⟨listed, name, uncalled⟩
      exact ⟨name, listed, uncalled⟩

variable {old new new' : Record} {calls calls' : List (String × Span)}

/-- Calls in another order leave records that show the same. -/
theorem Called.snapshot_eq (h : Called calls key old new) (h' : Called calls' key old new') (perm : calls.Perm calls')
    (distinct : new.Distinct) (distinct' : new'.Distinct) : new.snapshot = new'.snapshot := by
  refine Record.snapshot_eq (h.uncounted.trans h'.uncounted.symm) ?_ ?_
  · refine Table.ascending_eq distinct.covered distinct'.covered fun name => Option.ext fun n => ?_
    rw [h.covered, h'.covered]
    simp only [perm.count_eq]
  · refine Table.ascending_eq distinct.uncovered distinct'.uncovered fun name => Option.ext fun n => ?_
    rw [h.uncovered, h'.uncovered]
    simp only [perm.mem_iff]

end Record

namespace Session

variable {c : Config} {generated : String} {recorder : Identifier} {m m' : Machine (Ledger τ)} {s : Session}

/-- The records of a session that has just started are those of texts that were read and got their probes. -/
theorem Patched.exists_cover (h : Patched c recorder m s m') {key : String} {old : Record}
    (found : s.module? m'.host key = some old) :
    ∃ source t, old = (Record.ofScript key c.component source t).cover recorder := by
  have listed : key ∈ s.keys m'.host := (Table.mem_sortedKeys _ _).2 ((Table.contains_iff_get? _ _).2 ⟨old, found⟩)
  obtain ⟨registered, selected⟩ := (h.mem_keys key).1 listed
  obtain ⟨f, file⟩ := (Table.contains_iff_get? _ _).1 registered
  obtain ⟨r, read, entered, -⟩ := h.selected key f file selected
  obtain rfl : old = r.cover recorder := Option.some.inj (found.symm.trans entered)
  rw [Record.ofFactory] at read
  split at read
  · next t _ =>
    cases read
    exact ⟨f.source, t, rfl⟩
  · cases read

/-- The recorder of a session that has just started counts exactly. After any calls of it, a call for a module that is
not there is refused and leaves everything as it is; any other one gives one more than the number of calls before it
with the same key and range, and changes only that counter and whether that range counts as one that did not run. So
every counter is the number of its calls, the ranges that did not run are those that were not called, and nothing else
has changed, whatever the order of the calls was. -/
theorem recorder_counts_exactly (started : start c generated m = .ok s m') (calls : List (String × Span)) :
    let l := s.recordAll m'.host calls
    (∀ key r, s.module? m'.host key = none →
      s.record l key r = .error (.unknownModule key) ∧ s.recordAll m'.host (calls ++ [(key, r)]) = l) ∧
    (∀ key r, s.module? m'.host key ≠ none → ∃ l', s.record l key r = .ok (calls.count (key, r) + 1, l') ∧
      s.recordAll m'.host (calls ++ [(key, r)]) = l' ∧ s.Counts l key r (calls.count (key, r) + 1) l') ∧
    (∀ key, s.module? m'.host key = none → s.module? l key = none) ∧
    (∀ key old, s.module? m'.host key = some old → ∃ new, s.module? l key = some new ∧ Record.Called calls key old new) ∧
    s.keys l = s.keys m'.host ∧
    (∀ i, i ≠ s.number → Recorder.table l i = Recorder.table m'.host i) ∧
    l.rest = m'.host.rest ∧
    (∀ r r' : Span, r.key = r'.key → r = r') ∧
    ∀ calls', calls.Perm calls' →
      (s.modules (s.recordAll m'.host calls')).map Record.snapshot = (s.modules l).map Record.snapshot := by
  obtain ⟨recorder, patched⟩ := start_patched started
  intro l
  have frame := recordAll_frame s m'.host calls
  have found (calls : List (String × Span)) (key : String) := module?_recordAll s m'.host calls key
  have known {key : String} {old : Record} (here : s.module? m'.host key = some old) :
      s.module? l key = some (old.hitAll (rangesIn key calls)) := by rw [found, here, Option.map_some]
  have called {key : String} {old : Record} (here : s.module? m'.host key = some old) (calls : List (String × Span)) :
      Record.Called calls key old (old.hitAll (rangesIn key calls)) ∧ (old.hitAll (rangesIn key calls)).Distinct := by
    obtain ⟨source, t, rfl⟩ := patched.exists_cover here
    exact ⟨Record.called_hitAll calls key, (Record.distinct_cover ..).hitAll _⟩
  refine ⟨fun key r absent => ?_, fun key r present => ?_, fun key absent => ?_, fun key old here => ?_, ?_, frame.2.1, frame.2.2,
    fun _ _ => Span.key_injective, fun calls' perm => ?_⟩
  · -- a call for no module
    have still : s.module? l key = none := by rw [found, absent, Option.map_none]
    refine ⟨record_of_unknown still r, ?_⟩
    rw [recordAll_append, recordAll_cons_of_unknown still]
    rfl
  · -- a call for a module: its record is the one at the start with the hits of the calls before
    obtain ⟨old, here⟩ := Option.ne_none_iff_exists'.1 present
    have count : (old.hitAll (rangesIn key calls)).count r = calls.count (key, r) := by
      obtain ⟨source, t, rfl⟩ := patched.exists_cover here
      rw [Record.count_hitAll, count_rangesIn, Record.count_cover, Nat.zero_add]
    refine ⟨s.recorded l key (old.hitAll (rangesIn key calls)) r, ?_, ?_, ?_⟩
    · rw [record_of_known (known here), count]
    · rw [recordAll_append, recordAll_cons_of_known (known here)]
      rfl
    · rw [← count]
      exact counts_recorded (known here) r
  · rw [found, absent, Option.map_none]
  · exact ⟨_, known here, (called here calls).1⟩
  · exact sortedKeys_recordAll s m'.host calls
  · refine snapshots_recordAll_congr fun key old here => ?_
    obtain ⟨counted, distinct⟩ := called here calls
    obtain ⟨counted', distinct'⟩ := called here calls'
    exact counted'.snapshot_eq counted perm.symm distinct' distinct

/-- It is so for the module `exports.a = 1;`: two calls, of which the second one is for another range, and one for a
module that is not there. -/
theorem recorder_counts_exactly_assignment :
    ∃ s m', start { component := "m", recorderName := some "cov" } "" OneModule.machine = .ok s m' ∧
      ∃ l', s.record (s.recordAll m'.host [("m/index.js", ⟨1, 15⟩), ("n", ⟨0, 0⟩), ("m/index.js", ⟨2, 3⟩)])
        "m/index.js" ⟨1, 15⟩ = .ok (2, l') := by
  obtain ⟨s, m', started, listed⟩ := exists_of_startsWith (c := { component := "m", recorderName := some "cov" })
    (m := OneModule.machine) (p := fun s m' => (s.module? m'.host "m/index.js").isSome) (by decide +kernel)
  have present : s.module? m'.host "m/index.js" ≠ none := fun absent => by simp [absent] at listed
  obtain ⟨-, counts, -⟩ := recorder_counts_exactly started
    [("m/index.js", ⟨1, 15⟩), ("n", ⟨0, 0⟩), ("m/index.js", ⟨2, 3⟩)]
  obtain ⟨l', recorded, -⟩ := counts "m/index.js" ⟨1, 15⟩ present
  exact ⟨s, m', started, l', recorded⟩

end Session

end ScriptCoverage
