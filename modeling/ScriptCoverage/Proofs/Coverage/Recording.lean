import ScriptCoverage.Coverage.Recorder
import ScriptCoverage.Proofs.Machine.ModuleRun
import ScriptCoverage.Proofs.Number.Whole

/-!
Calls of recorders in runs side by side. `Ledger.uncounted` forgets what a session counted; that is all that
calls of its recorder change. Main statements: `SameHosts.recorder` — a host with recorders does the same on
ledgers that agree up to counts — and `Counted.probe` — the call of a probe succeeds and changes counts only.
-/

namespace ScriptCoverage

open Machine (Value Host Run Simulation)

variable {τ : Type}

/-! ### What is left without counts -/

def Record.uncounted (r : Record) : Record := { r with covered := {}, uncovered := {} }

namespace Table

variable {α β : Type}

/-- A table with all values changed. -/
def map (f : α → β) (t : Table α) : Table β := ⟨t.entries.map fun e => (e.1, f e.2)⟩

theorem get?_map (f : α → β) (t : Table α) (key : String) : (t.map f).get? key = (t.get? key).map f := by
  obtain ⟨es⟩ := t
  simp only [get?, map]
  induction es with
  | nil => rfl
  | cons e es ih =>
    simp only [List.map_cons, find?]
    split
    · rfl
    · exact ih

theorem map_put (f : α → β) (t : Table α) (key : String) (v : α) : (t.put key v).map f = (t.map f).put key (f v) := by
  obtain ⟨es⟩ := t
  simp only [put, map, mk.injEq]
  induction es with
  | nil => rfl
  | cons e es ih =>
    simp only [List.map_cons, putIn]
    split
    · rfl
    · rw [List.map_cons, ih]

/-- Giving a key the value that it has changes nothing. -/
theorem put_of_get? {t : Table α} {key : String} {v : α} (h : t.get? key = some v) : t.put key v = t := by
  obtain ⟨es⟩ := t
  simp only [get?, put, mk.injEq] at h ⊢
  induction es with
  | nil => cases h
  | cons e es ih =>
    simp only [find?] at h
    simp only [putIn]
    split
    · next hk =>
      rw [if_pos hk] at h
      cases h
      rfl
    · next hk =>
      rw [if_neg hk] at h
      rw [ih h]

end Table

/-- The ledger without what a session counted. -/
def Ledger.uncounted (session : Nat) (l : Ledger τ) : Ledger τ :=
  { l with tables := l.tables.modify session (Table.map Record.uncounted) }

namespace Recorder

variable {session : Nat} {l l' : Ledger τ}

theorem table_uncounted (l : Ledger τ) (s : Nat) :
    table (l.uncounted session) s = if s = session then (table l s).map Record.uncounted else table l s := by
  simp only [table, Ledger.uncounted, Array.getElem?_modify]
  by_cases h : s = session
  · subst h
    cases l.tables[s]? <;> simp [Table.map]
  · simp [h, Ne.symm h]

theorem uncounted_setTable (s : Nat) (t : Table Record) (l : Ledger τ) :
    (setTable s t l).uncounted session =
      setTable s (if s = session then t.map Record.uncounted else t) (l.uncounted session) := by
  have tables : (l.tables.setIfInBounds s t).modify session (Table.map Record.uncounted) =
      (l.tables.modify session (Table.map Record.uncounted)).setIfInBounds s
        (if s = session then t.map Record.uncounted else t) := by
    refine Array.ext (by simp) fun i hi hi' => ?_
    simp only [Array.getElem_modify]
    grind
  exact congrArg (fun ts => ({ l with tables := ts } : Ledger τ)) tables

theorem table_setTable_of_ne {s i : Nat} (h : s ≠ i) (t : Table Record) (l : Ledger τ) :
    table (setTable s t l) i = table l i := by
  rw [table, setTable, Array.getElem?_setIfInBounds_ne h, table]

theorem setTable_table (l : Ledger τ) (s : Nat) : setTable s (table l s) l = l := by
  have tables : l.tables.setIfInBounds s (table l s) = l.tables := by
    refine Array.ext (by simp) fun i hi hi' => ?_
    rw [Array.getElem_setIfInBounds]
    split
    · next h =>
      subst h
      rw [table, Array.getElem?_eq_getElem hi']
      rfl
    · rfl
  rw [setTable, tables]

/-- Whether two ledgers agree up to what a session counted, and the session knows a module. -/
structure Counted (session : Nat) (key : String) (l l' : Ledger τ) : Prop where
  same : l.uncounted session = l'.uncounted session
  listed : (table l' session).contains key

/-! ### Calls -/

/-- What becomes of a call: its arguments name nothing, or a module that is not there, or the module is counted. -/
theorem recordArgs_cases (t : Table Record) (args : List Value) :
    (∃ e, target args = .error e ∧ recordArgs t args = .error e) ∨
      ∃ key s, target args = .ok (key, s) ∧
        ((t.get? key = none ∧ recordArgs t args = .error (.unknownModule key)) ∨
          ∃ r, t.get? key = some r ∧ recordArgs t args = .ok ((r.hit s).count s, t.put key (r.hit s))) := by
  rw [recordArgs]
  cases ht : target args with
  | error e => exact .inl ⟨e, rfl, rfl⟩
  | ok x =>
    obtain ⟨key, s⟩ := x
    refine .inr ⟨key, s, rfl, ?_⟩
    change (_ ∧ record t key s = _) ∨ ∃ r, _ ∧ record t key s = _
    rw [record]
    cases hr : t.get? key with
    | none => exact .inl ⟨rfl, rfl⟩
    | some r => exact .inr ⟨r, rfl, rfl⟩

theorem call_of_ok {s n : Nat} {args : List Value} {m : Machine (Ledger τ)} {t : Table Record}
    (h : recordArgs (table m.host s) args = .ok (n, t)) :
    call s args m = .ok .undefined (m.withHost (setTable s t m.host)) := by
  rw [call, Run.get_bind, h]
  rfl

theorem call_of_error {s : Nat} {args : List Value} {m : Machine (Ledger τ)} {e : CoverageError}
    (h : recordArgs (table m.host s) args = .error e) : call s args m = .error (.failed (e.toFatal m.heap)) m := by
  rw [call, Run.get_bind, h]
  rfl

/-- Whether calls of recorders keep a relation between ledgers, and fail on both sides or on none. -/
def Respects (agree : Ledger τ → Ledger τ → Prop) : Prop :=
  ∀ s args l l', agree l l' →
    (∃ e, recordArgs (table l s) args = .error e ∧ recordArgs (table l' s) args = .error e) ∨
      ∃ n n' t t', recordArgs (table l s) args = .ok (n, t) ∧ recordArgs (table l' s) args = .ok (n', t') ∧
        agree (setTable s t l) (setTable s t' l')

theorem respects_eq : Respects (Eq : Ledger τ → Ledger τ → Prop) := by
  intro s args l l' h
  subst h
  cases hr : recordArgs (table l s) args with
  | error e => exact .inl ⟨e, rfl, rfl⟩
  | ok x => exact .inr ⟨x.1, x.1, x.2, x.2, rfl, rfl, rfl⟩

/-- A call changes counts only. -/
theorem uncounted_recordArgs {t t' : Table Record} {args : List Value} {n : Nat} (h : recordArgs t args = .ok (n, t')) :
    t'.map Record.uncounted = t.map Record.uncounted := by
  rcases recordArgs_cases t args with ⟨e, -, he⟩ | ⟨key, s, -, ⟨-, he⟩ | ⟨r, hr, ho⟩⟩
  · cases he.symm.trans h
  · cases he.symm.trans h
  · cases ho.symm.trans h
    rw [Table.map_put]
    refine Table.put_of_get? ?_
    rw [Table.get?_map, hr]
    rfl

theorem uncounted_setTable_recordArgs {l : Ledger τ} {args : List Value} {n : Nat} {t : Table Record}
    (h : recordArgs (table l session) args = .ok (n, t)) : (setTable session t l).uncounted session = l.uncounted session := by
  have unchanged : t.map Record.uncounted = table (l.uncounted session) session := by
    rw [table_uncounted, if_pos rfl, uncounted_recordArgs h]
  rw [uncounted_setTable, if_pos rfl, unchanged, setTable_table]

theorem contains_uncounted (l : Ledger τ) (key : String) :
    (table (l.uncounted session) session).contains key = (table l session).contains key := by
  rw [table_uncounted, if_pos rfl, Table.contains, Table.get?_map, Table.contains]
  cases (table l session).get? key <;> rfl

/-- Tables that agree up to counts take the same calls. -/
theorem recordArgs_of_map_eq {t t' : Table Record} (h : t.map Record.uncounted = t'.map Record.uncounted)
    (args : List Value) :
    (∃ e, recordArgs t args = .error e ∧ recordArgs t' args = .error e) ∨
      ∃ n n' u u', recordArgs t args = .ok (n, u) ∧ recordArgs t' args = .ok (n', u') := by
  have known (key : String) : (t.get? key).map Record.uncounted = (t'.get? key).map Record.uncounted := by
    rw [← Table.get?_map, h, Table.get?_map]
  -- both calls name one key, and it is there in both tables or in none
  rcases recordArgs_cases t args with ⟨e, ht, he⟩ | ⟨key, s, ht, hk⟩
  · rcases recordArgs_cases t' args with ⟨e', ht', he'⟩ | ⟨_, _, ht', -⟩
    · obtain rfl : e = e' := Except.error.inj (ht.symm.trans ht')
      exact .inl ⟨e, he, he'⟩
    · cases ht.symm.trans ht'
  · rcases recordArgs_cases t' args with ⟨_, ht', -⟩ | ⟨key', s', ht', hk'⟩
    · cases ht.symm.trans ht'
    · cases ht.symm.trans ht'
      have both := known key
      rcases hk with ⟨none, he⟩ | ⟨r, some, ho⟩
      · rcases hk' with ⟨-, he'⟩ | ⟨r', some', -⟩
        · exact .inl ⟨_, he, he'⟩
        · rw [none, some'] at both
          cases both
      · rcases hk' with ⟨none', -⟩ | ⟨r', -, ho'⟩
        · rw [some, none'] at both
          cases both
        · exact .inr ⟨_, _, _, _, ho, ho'⟩

/-- Calls of recorders keep ledgers that agree up to counts so. -/
theorem Counted.respects (session : Nat) (key : String) : Respects (Counted (τ := τ) session key) := by
  intro s args l l' h
  -- of the session itself the ledgers agree up to counts, of any other one they agree
  by_cases hs : s = session
  · subst hs
    have tables : (table l s).map Record.uncounted = (table l' s).map Record.uncounted := by
      have same := congrArg (table · s) h.same
      simpa only [table_uncounted, if_true] using same
    rcases recordArgs_of_map_eq tables args with refused | ⟨n, n', t, t', ht, ht'⟩
    · exact .inl refused
    · refine .inr ⟨n, n', t, t', ht, ht', ?_, ?_⟩
      · rw [uncounted_setTable_recordArgs ht, uncounted_setTable_recordArgs ht', h.same]
      · rw [← contains_uncounted, uncounted_setTable_recordArgs ht', contains_uncounted]
        exact h.listed
  · have tables : table l s = table l' s := by
      have same := congrArg (table · s) h.same
      simpa only [table_uncounted, if_neg hs] using same
    rw [tables]
    cases ht : recordArgs (table l' s) args with
    | error e => exact .inl ⟨e, rfl, rfl⟩
    | ok x =>
      refine .inr ⟨x.1, x.1, x.2, x.2, rfl, rfl, ?_, ?_⟩
      · rw [uncounted_setTable, uncounted_setTable, h.same]
      · rw [table_setTable_of_ne hs]
        exact h.listed

/-! ### Probes -/

variable {p : Probe} {s : Span}

theorem target_arguments {a b : Nat} (ha : offset? (some (.number (ofWhole s.start))) = some a)
    (hb : offset? (some (.number (ofWhole s.stop))) = some b) : target (p.arguments s) = .ok (p.key, ⟨a, b⟩) := by
  simp only [Probe.arguments, target, List.head?_cons, List.getElem?_cons_succ, List.getElem?_cons_zero, offset, ha, hb]
  rfl

/-- A probe reports the range of its statement, if numbers can. -/
theorem target_arguments_of_lt (ha : s.start < 2 ^ 53) (hb : s.stop < 2 ^ 53) :
    target (p.arguments s) = .ok (p.key, s) :=
  target_arguments (offset?_ofWhole ha) (offset?_ofWhole hb)

/-- The call of a probe succeeds and changes counts only. -/
theorem Counted.probe (h : Counted session p.key l l') (ha : s.start < 2 ^ 64) (hb : s.stop < 2 ^ 64) :
    ∃ n t, recordArgs (table l' session) (p.arguments s) = .ok (n, t) ∧
      Counted session p.key l (setTable session t l') := by
  obtain ⟨a, ha⟩ := Option.isSome_iff_exists.1 (isSome_offset?_ofWhole ha)
  obtain ⟨b, hb⟩ := Option.isSome_iff_exists.1 (isSome_offset?_ofWhole hb)
  have listed := h.listed
  rcases recordArgs_cases (table l' session) (p.arguments s) with ⟨e, he, -⟩ | ⟨key, range, ht, hk⟩
  · cases he.symm.trans (target_arguments ha hb)
  · cases ht.symm.trans (target_arguments ha hb)
    rcases hk with ⟨none, -⟩ | ⟨r, some, ho⟩
    · rw [Table.contains, none] at listed
      cases listed
    · refine ⟨_, _, ho, ?_, ?_⟩
      · rw [h.same, uncounted_setTable_recordArgs ho]
      · rw [← contains_uncounted, uncounted_setTable_recordArgs ho, contains_uncounted]
        exact h.listed

end Recorder

namespace Machine

open Recorder (Respects)

/-! ### Hosts -/

/-- Whether a relation between ledgers concerns the tables of sessions only: beside them the ledgers hold the
same, which may be anything. -/
def OverTables (agree : Ledger τ → Ledger τ → Prop) : Prop :=
  ∀ l l', agree l l' → l.rest = l'.rest ∧ ∀ rest, agree { l with rest } { l' with rest }

/-- Whether the functions of a host cannot see what a session counts and what the code of script functions is,
and leave both alone: in runs side by side they end in the same way, whatever the tables of sessions and the code
of functions are, and a sound machine stays sound. -/
structure Host.Blind (other : Host (Ledger τ)) : Prop where
  call : ∀ T : Simulation (Ledger τ) (Ledger τ), OverTables T.agree →
    ∀ f this args, T.Same (other.call f this args) (other.call f this args)
  begins : ∀ scope s, other.begins scope s = pure ()
  loads : ∀ agree, OverTables agree → ∀ e l l', agree l l' → agree (other.loads e l) (other.loads e l')

theorem overTables_eq : OverTables (Eq : Ledger τ → Ledger τ → Prop) := by
  rintro l l' rfl
  exact ⟨rfl, fun _ => rfl⟩

theorem overTables_counted (session : Nat) (key : String) : OverTables (Recorder.Counted (τ := τ) session key) := by
  intro l l' h
  have rest : (l.uncounted session).rest = (l'.uncounted session).rest := congrArg _ h.same
  refine ⟨rest, fun rest => ⟨?_, h.listed⟩⟩
  exact congrArg (fun l : Ledger τ => { l with rest }) h.same

theorem message_heap (S : Weave) (h : Heap) (e : CoverageError) : e.message (S.heap h) = e.message h := by
  cases e with
  | runtime cause =>
    cases cause with
    | thrown v => exact congrArg ("Uncaught " ++ ·) (S.text_heap h v)
    | _ => rfl
  | _ => rfl

namespace Simulation

variable {T : Simulation (Ledger τ) (Ledger τ)}

theorem Same.recorderCall (respects : Respects T.agree) (s : Nat) (args : List Value) :
    T.Same (Recorder.call s args) (Recorder.call s args) := by
  intro m m' hm
  rcases respects s args _ _ hm.host with ⟨e, he, he'⟩ | ⟨n, n', t, t', ht, ht', agree⟩
  · rw [Recorder.call_of_error he, Recorder.call_of_error he', CoverageError.toFatal, CoverageError.toFatal, hm.heap,
      message_heap]
    exact .failed _ hm
  · rw [Recorder.call_of_ok ht, Recorder.call_of_ok ht']
    exact .ok rfl (hm.withHost agree)

/-- A host with recorders does the same on ledgers that agree up to counts. -/
theorem SameHosts.recorder {other : Host (Ledger τ)} (blind : other.Blind) (tables : OverTables T.agree)
    (respects : Respects T.agree) : T.SameHosts (Recorder.host other) (Recorder.host other) where
  call f this args := by
    cases f with
    | recorder s => exact .recorderCall respects s args
    | named name => exact blind.call T tables (.named name) this args
  begins scope s _ := by
    change T.Same (other.begins scope s) (other.begins scope s)
    rw [blind.begins]
    exact .pure _
  silent scope s _ := blind.begins scope s
  loads e l l' h := blind.loads T.agree tables e l l' h

end Simulation

end Machine

end ScriptCoverage
