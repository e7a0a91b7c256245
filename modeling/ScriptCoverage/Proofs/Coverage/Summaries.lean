import ScriptCoverage.Proofs.Coverage.Independence

/-!
Summaries of what a session covers. Every range of a module has been called or has not, so the two parts of a summary are
all of it; and sums are never clamped, since no summary covers more than there is. Main statement: `summaries_account` —
after any calls of its recorder, by the host or by scripts, the summaries of a session account for every range.
-/

namespace ScriptCoverage

open Machine (Value)

variable {τ : Type}

/-! ### Sums -/

namespace Summary

variable (s t : Summary)

theorem total_add : (s + t).total = s.total + t.total := rfl

/-- A sum is not clamped. -/
theorem covered_add : (s + t).covered = s.covered + t.covered :=
  Nat.min_eq_left (Nat.add_le_add s.covered_le t.covered_le)

theorem covered_add_uncovered : s.covered + s.uncovered = s.total := Nat.add_sub_cancel' s.covered_le

variable (ss : List Summary)

theorem total_sum : (sum ss).total = (ss.map total).sum := by
  induction ss using List.reverseRecOn with
  | nil => rfl
  | append_singleton ss s ih =>
    rw [sum, List.foldl_append, ← sum, List.foldl_cons, List.foldl_nil, total_add, ih, List.map_append, List.sum_append]
    rfl

theorem covered_sum : (sum ss).covered = (ss.map covered).sum := by
  induction ss using List.reverseRecOn with
  | nil => rfl
  | append_singleton ss s ih =>
    rw [sum, List.foldl_append, ← sum, List.foldl_cons, List.foldl_nil, covered_add, ih, List.map_append, List.sum_append]
    rfl

theorem uncovered_sum : (sum ss).uncovered = (ss.map uncovered).sum := by
  have all : (ss.map covered).sum + (ss.map uncovered).sum = (ss.map total).sum := by
    induction ss with
    | nil => rfl
    | cons s ss ih =>
      have one := s.covered_add_uncovered
      simp only [List.map_cons, List.sum_cons]
      omega
  rw [uncovered, total_sum, covered_sum, ← all, Nat.add_sub_cancel_left]

/-- Sums do not depend on the order. -/
theorem sum_eq_of_perm {ss ss' : List Summary} (h : ss.Perm ss') : sum ss' = sum ss := by
  have total : (sum ss').total = (sum ss).total := by rw [total_sum, total_sum, (h.map _).sum_eq]
  have covered : (sum ss').covered = (sum ss).covered := by rw [covered_sum, covered_sum, (h.map _).sum_eq]
  cases hs : sum ss
  cases hs' : sum ss'
  rw [hs, hs'] at total covered
  exact (Summary.mk.injEq ..).mpr ⟨total, covered⟩

end Summary

/-! ### Records -/

namespace Record

/-- Whether the summary of a record accounts for all of its ranges, after calls for modules and ranges of which those for
its own key are the ones that it has counted. -/
structure Accounted (calls : List (String × Span)) (key : String) (r : Record) : Prop where
  total : r.summary.total = r.ranges.length
  parts : r.summary.covered + r.summary.uncovered = r.summary.total
  covered : r.summary.covered = r.ranges.countP fun s => (key, s) ∈ calls
  uncovered : r.summary.uncovered = r.uncoveredRanges.length
  complete : r.summary.isComplete ↔ r.uncovered.entries = []

theorem total_summary (r : Record) : r.summary.total = r.ranges.length := rfl

theorem covered_summary (r : Record) : r.summary.covered = r.ranges.countP r.isCovered :=
  Nat.min_eq_left List.countP_le_length

theorem entries_eq_nil_iff {α : Type} {t : Table α} : t.entries = [] ↔ ∀ key, t.get? key = none := by
  constructor
  · intro empty key
    rw [Table.get?, empty]
    rfl
  · intro none
    cases entries : t.entries with
    | nil => rfl
    | cons e es =>
      have absent := none e.1
      rw [Table.get?, entries, Table.find?, if_pos rfl] at absent
      cases absent

variable {calls calls' : List (String × Span)} {key : String} {old new new' : Record}

theorem Called.isCovered_iff (h : Called calls key old new) (s : Span) : new.isCovered s ↔ (key, s) ∈ calls := by
  rw [isCovered, Table.contains_iff_get?]
  simp only [h.covered]
  constructor
  · rintro ⟨n, some, r, same, rfl⟩
    rw [← Span.key_injective same]
    exact List.count_pos_iff.1 (Nat.pos_of_ne_zero some)
  · intro called
    exact ⟨_, (List.count_pos_iff.2 called).ne', s, rfl, rfl⟩

theorem Called.uncovered_iff (h : Called calls key old new) (s : Span) :
    new.uncovered.contains s.key ↔ s ∈ old.ranges ∧ (key, s) ∉ calls := by
  rw [Table.contains_iff_get?]
  simp only [h.uncovered, exists_eq_left]
  constructor
  · rintro ⟨r, listed, same, uncalled⟩
    rw [← Span.key_injective same]
    exact ⟨listed, uncalled⟩
  · rintro ⟨listed, uncalled⟩
    exact ⟨s, listed, rfl, uncalled⟩

theorem Called.ranges_eq (h : Called calls key old new) : new.ranges = old.ranges := by
  have same := congrArg ranges h.uncounted
  exact same

theorem Called.covered_eq (h : Called calls key old new) :
    new.summary.covered = old.ranges.countP fun s => (key, s) ∈ calls := by
  rw [covered_summary, h.ranges_eq]
  refine List.countP_congr fun s _ => ?_
  rw [h.isCovered_iff, decide_eq_true_iff]

/-- The two views of a summary fit together: what is not counted as covered is what is still to be called. -/
theorem Called.accounted (h : Called calls key old new) : Accounted calls key new := by
  have covered : new.summary.covered = new.ranges.countP fun s => (key, s) ∈ calls := by rw [h.covered_eq, h.ranges_eq]
  have uncalled : new.uncoveredRanges = new.ranges.filter fun s => ¬ (key, s) ∈ calls := by
    refine List.filter_congr fun s listed => Bool.eq_iff_iff.2 ?_
    rw [h.uncovered_iff, decide_eq_true_iff, ← h.ranges_eq]
    exact and_iff_right listed
  have uncovered : new.summary.uncovered = new.uncoveredRanges.length := by
    have split := List.length_eq_countP_add_countP (fun s => decide ((key, s) ∈ calls)) (l := new.ranges)
    have all := new.summary.covered_add_uncovered
    rw [total_summary, covered] at all
    rw [uncalled, ← List.countP_eq_length_filter]
    simp only [decide_eq_true_eq] at split
    omega
  refine ⟨rfl, new.summary.covered_add_uncovered, covered, uncovered, ?_⟩
  have complete : new.summary.isComplete = true ↔ ∀ s ∈ new.ranges, (key, s) ∈ calls := by
    rw [Summary.isComplete, beq_iff_eq, covered, total_summary, List.countP_eq_length]
    simp only [decide_eq_true_eq]
  rw [complete, entries_eq_nil_iff]
  constructor
  · intro all name
    rw [Option.eq_none_iff_forall_ne_some]
    intro n found
    obtain ⟨-, s, listed, -, uncalled⟩ := (h.uncovered name n).1 found
    exact uncalled (all s (h.ranges_eq ▸ listed))
  · intro none s listed
    by_contra uncalled
    obtain ⟨n, found⟩ := (Table.contains_iff_get? _ _).1 ((h.uncovered_iff s).2 ⟨h.ranges_eq ▸ listed, uncalled⟩)
    rw [none] at found
    cases found

/-- Calls that name no other range of the module leave its summary as it is. -/
theorem Called.summary_eq (h : Called calls key old new) (h' : Called calls' key old new')
    (same : ∀ s ∈ old.ranges, (key, s) ∈ calls' ↔ (key, s) ∈ calls) : new'.summary = new.summary := by
  have covered : new'.ranges.countP new'.isCovered = new.ranges.countP new.isCovered := by
    rw [h.ranges_eq, h'.ranges_eq]
    refine List.countP_congr fun s listed => ?_
    rw [h.isCovered_iff, h'.isCovered_iff, same s listed]
  rw [summary, summary, covered, h.ranges_eq, h'.ranges_eq]

theorem Called.covered_le (h : Called calls key old new) (h' : Called calls' key old new') (more : calls ⊆ calls') :
    new.summary.covered ≤ new'.summary.covered := by
  rw [h.covered_eq, h'.covered_eq]
  refine List.countP_mono_left fun s _ called => ?_
  rw [decide_eq_true_iff] at called ⊢
  exact more called

end Record

/-! ### Sessions -/

/-- A call of a recorder: by the host with a key and a range, or with the arguments that a script gives. -/
inductive Recorder.Call
  | direct (key : String) (r : Span)
  | script (args : List Value)

/-- The key and the range that a call names, if it does. -/
def Recorder.Call.named? : Recorder.Call → Option (String × Span)
  | .direct key r => some (key, r)
  | .script args => (target args).toOption

namespace Session

open Recorder (Call)

variable {c : Config} {generated key : String} {m m' : Machine (Ledger τ)} {s : Session} {l : Ledger τ}

/-- The ledger after a call. One that fails leaves it as it was. -/
def called (s : Session) (l : Ledger τ) (call : Call) : Ledger τ :=
  let counted := match call with
    | .direct key r => s.record l key r
    | .script args => s.recordArgs l args
  match counted with
  | .ok (_, l') => l'
  | .error _ => l

/-- The ledger after calls, one after the other. -/
def after (s : Session) (l : Ledger τ) (calls : List Call) : Ledger τ := calls.foldl s.called l

theorem called_eq (s : Session) (l : Ledger τ) (call : Call) : s.called l call = s.recordAll l call.named?.toList := by
  cases call with
  | direct key r =>
    rw [called, Recorder.Call.named?, Option.toList_some, recordAll]
    cases s.record l key r <;> rfl
  | script args =>
    rw [called, Recorder.Call.named?, Session.recordArgs, Recorder.recordArgs]
    cases Recorder.target args with
    | error e => rfl
    | ok x =>
      change (match s.record l x.1 x.2 with
        | .ok (_, l') => l'
        | .error _ => l) = s.recordAll l [(x.1, x.2)]
      rw [recordAll]
      cases s.record l x.1 x.2 <;> rfl

/-- Calls count what they name. -/
theorem after_eq (s : Session) (l : Ledger τ) (calls : List Call) :
    s.after l calls = s.recordAll l (calls.filterMap Call.named?) := by
  induction calls generalizing l with
  | nil => rfl
  | cons call calls ih =>
    rw [after, List.foldl_cons, ← after, ih, called_eq, ← recordAll_append, List.filterMap_cons]
    cases call.named? <;> rfl

theorem after_direct (s : Session) (l : Ledger τ) (calls : List (String × Span)) :
    s.after l (calls.map fun call => .direct call.1 call.2) = s.recordAll l calls := by
  rw [after_eq, List.filterMap_map]
  exact congrArg _ (List.filterMap_some ..)

theorem after_append (s : Session) (l : Ledger τ) (calls calls' : List Call) :
    s.after l (calls ++ calls') = s.after (s.after l calls) calls' := List.foldl_append

theorem Patched.called_after {recorder : Identifier} (h : Patched c recorder m s m') {old : Record}
    (found : s.module? m'.host key = some old) (calls : List Call) :
    ∃ new, s.module? (s.after m'.host calls) key = some new ∧ Record.Called (calls.filterMap Call.named?) key old new := by
  refine ⟨old.hitAll (rangesIn key (calls.filterMap Call.named?)), ?_, ?_⟩
  · rw [after_eq, module?_recordAll, found, Option.map_some]
  · obtain ⟨source, t, rfl⟩ := h.exists_cover found
    exact Record.called_hitAll _ _

/-- Whatever is asked of a machine, what a session has counted behind it comes of calls of its recorder. -/
theorem Interleaved.exists_after {sessions : Nat → Bool} {m₁ m₂ : Machine (Ledger τ)} (h : Interleaved sessions m₁ m₂)
    (s : Session) {calls : List Call} (before : s.table m₁.host = s.table (s.after l calls)) :
    ∃ more, s.table m₂.host = s.table (s.after l (calls ++ more)) := by
  obtain ⟨made, -, tables⟩ := h.calledFor
  refine ⟨(Recorder.callsOf s.number made).map fun call => .direct call.1 call.2, ?_⟩
  rw [after_append, after_direct, Recorder.table_recordAll, ← before]
  exact tables s.number

/-- Summaries account for every statement. After any calls of the recorder of a session that has started, the summary of
a module counts each of its ranges, as covered if a call has named it and as uncovered otherwise; the uncovered ones are
those that the record lists as such, and the summary is complete iff the table of them is empty. Calls that name no range
of the module leave its summary as it is, and no call covers less. The summary of the session adds up those of its modules,
of which none comes twice, in whatever order; the addition of summaries is never clamped. What runs of scripts leave
behind is what some calls more have left. -/
theorem summaries_account (started : start c generated m = .ok s m') (calls : List Call) :
    let l := s.after m'.host calls
    let each := (s.modules l).map Record.summary
    (∀ key old, s.module? m'.host key = some old → ∃ new, s.module? l key = some new ∧ new.ranges = old.ranges ∧
      new.Accounted (calls.filterMap Call.named?) key ∧
      (∀ more : List Call, (∀ call ∈ more, ∀ r ∈ old.ranges, call.named? ≠ some (key, r)) →
        (s.module? (s.after m'.host (calls ++ more)) key).map Record.summary = some new.summary) ∧
      ∀ more, ∃ later, s.module? (s.after m'.host (calls ++ more)) key = some later ∧
        new.summary.covered ≤ later.summary.covered) ∧
    (s.keys l = s.keys m'.host ∧ (s.keys l).Nodup ∧
      (s.summary l).total = (each.map Summary.total).sum ∧
      (s.summary l).covered = (each.map Summary.covered).sum ∧
      (s.summary l).uncovered = (each.map Summary.uncovered).sum ∧
      ∀ others, each.Perm others → Summary.sum others = s.summary l) ∧
    (∀ a b : Summary, (a + b).total = a.total + b.total ∧ (a + b).covered = a.covered + b.covered) ∧
    ∀ (sessions : Nat → Bool) (m₁ m₂ : Machine (Ledger τ)), s.table m₁.host = s.table l → Interleaved sessions m₁ m₂ →
      ∃ more, s.table m₂.host = s.table (s.after m'.host (calls ++ more)) := by
  obtain ⟨recorder, patched⟩ := start_patched started
  intro l each
  refine ⟨fun key old found => ?_, ?_, fun a b => ⟨a.total_add b, a.covered_add b⟩,
    fun sessions m₁ m₂ before runs => runs.exists_after s before⟩
  · obtain ⟨new, here, called⟩ := patched.called_after found calls
    have more (more : List Call) := patched.called_after found (calls ++ more)
    simp only [List.filterMap_append] at more
    refine ⟨new, here, called.ranges_eq, called.accounted, fun stray other => ?_, fun next => ?_⟩
    · obtain ⟨later, there, called'⟩ := more stray
      rw [there, Option.map_some]
      refine congrArg some (called.summary_eq called' fun r listed => ?_)
      -- a range is covered iff a call names it, so stray calls make no difference
      have unnamed : (key, r) ∉ stray.filterMap Call.named? := fun named => by
        obtain ⟨call, made, name⟩ := List.mem_filterMap.1 named
        exact other call made r listed name
      rw [List.mem_append, or_iff_left unnamed]
    · obtain ⟨later, there, called'⟩ := more next
      exact ⟨later, there, called.covered_le called' (List.subset_append_left _ _)⟩
  · have keys : s.keys l = s.keys m'.host := by
      have same := sortedKeys_recordAll s m'.host (calls.filterMap Call.named?)
      rwa [← after_eq] at same
    refine ⟨keys, keys ▸ patched.ascending.imp fun lt => ne_of_lt lt, Summary.total_sum each, Summary.covered_sum each,
      Summary.uncovered_sum each, fun others perm => Summary.sum_eq_of_perm perm⟩

/-- It is so for the module `exports.a = 1;`: its only range is called by the host, and a script calls another one. -/
theorem summaries_account_assignment :
    let calls : List Call := [.script [.string "m/index.js", .number 2, .number 3], .direct "m/index.js" ⟨1, 15⟩]
    ∃ s m', start { component := "m", recorderName := some "cov" } "" OneModule.machine = .ok s m' ∧
      ∃ old new, s.module? m'.host "m/index.js" = some old ∧ s.module? (s.after m'.host calls) "m/index.js" = some new ∧
        new.ranges = [⟨1, 15⟩] ∧ new.summary.covered = 1 ∧ new.uncoveredRanges.length = 0 := by
  intro calls
  obtain ⟨s, m', started, listed⟩ := exists_of_startsWith (c := { component := "m", recorderName := some "cov" })
    (m := OneModule.machine) (p := fun s m' => (s.module? m'.host "m/index.js").map Record.ranges == some [⟨1, 15⟩])
    (by decide +kernel)
  obtain ⟨old, found, ranges⟩ := Option.map_eq_some_iff.1 (beq_iff_eq.1 listed)
  obtain ⟨modules, -⟩ := summaries_account started calls
  obtain ⟨new, here, same, accounted, -⟩ := modules "m/index.js" old found
  have covered : new.summary.covered = 1 := by
    rw [accounted.covered, same, ranges]
    decide +kernel
  have all := accounted.parts
  rw [accounted.total, same, ranges, covered, accounted.uncovered] at all
  exact ⟨s, m', started, old, new, found, here, same.trans ranges, covered, Nat.add_left_cancel all⟩

end Session

end ScriptCoverage
