import ScriptCoverage.Proofs.Machine.CallSimulation

/-!
What a run of a probe does. A probe looks its recorder up by name, so it reaches it unless an object of a `with`
statement has a property with that name: `captures` says whether one has, and `Host.guarded` stops a run where a
statement begins in a scope with such an object. Main statement: `Follows.probed` — a probe does what its
recorder does.
-/

namespace ScriptCoverage.Machine

variable {σ σ' : Type}

/-- Whether an object that names of a scope are looked up in has a property with a name. -/
def captures (m : Machine σ) (scope : Scope) (name : String) : Bool :=
  scope.any fun r => match (m.frame r).kind with
    | .object v => m.heap.hasProperty v name
    | _ => false

/-- A host that stops a run where a statement begins and an object captures a name. -/
def Host.guarded (host : Host σ) (name : String) : Host σ :=
  { host with
    begins := fun scope s => do
      if (← get).captures scope name then throw .stopped else host.begins scope s }

theorem Weave.Corresponds.captures_eq {S : Weave} {agree : σ → σ' → Prop} {m : Machine σ} {m' : Machine σ'}
    (h : S.Corresponds agree m m') (scope : Scope) (name : String) : m'.captures scope name = m.captures scope name := by
  simp only [captures, h.frame_eq, h.heap, S.hasProperty_heap]

namespace Simulation.SameHosts

variable {T : Simulation σ σ'} {host : Host σ} {host' : Host σ'}

/-- A host that stops where a name is captured does the same up to there. -/
theorem guarded (h : T.SameHosts host host') (name : String) : T.SameHosts (host.guarded name) host' where
  call := h.call
  begins scope s bare := by
    intro m m' hm
    change T.Matches Eq ((if m.captures scope name then throw .stopped else host.begins scope s : Run σ Unit) m) _
    split
    · exact .stopped m _
    · exact h.begins scope s bare m m' hm
  silent := h.silent
  loads := h.loads

/-- Two hosts that stop there do so at the same time. -/
theorem guarded_guarded (h : T.SameHosts host host') (home : T.home = none) (name : String) :
    T.SameHosts (host.guarded name) (host'.guarded name) where
  call := h.call
  begins scope s bare := by
    intro m m' hm
    have same := (h.guarded name).begins scope s bare m m' hm
    change T.Matches Eq _ ((if m'.captures scope name then throw .stopped else host'.begins scope s : Run σ' Unit) m')
    rw [hm.captures_eq]
    split
    · next captured =>
      have stops : (host.guarded name).begins scope s m = .error .stopped m := congrFun (if_pos captured) m
      rw [stops]
      exact .stopped m _
    · exact same
  silent scope _ inside := absurd inside (Bool.eq_false_iff.1 (by simp [Weave.isHome, home]))
  loads := h.loads

end Simulation.SameHosts

theorem Run.bind_of_ok {α β : Type} {x : Run σ α} {f : α → Run σ β} {m n : Machine σ} {a : α} (h : x m = .ok a n) :
    (x >>= f) m = f a n := by
  change EStateM.bind x f m = _
  rw [EStateM.bind, h]

theorem Run.get_bind {α : Type} (f : Machine σ → Run σ α) (m : Machine σ) : (get >>= f) m = f m m := rfl

theorem Run.see_eq {α : Type} (f : Heap → α) (m : Machine σ) : Run.see f m = .ok (f m.heap) m := rfl

namespace Weave

variable {S : Weave} {m : Machine σ}

/-- The name of the recorder is found in the global frame if no object captures it. -/
theorem Sound.resolve?_recorder (h : S.Sound m) {scope : Scope} (hg : globalFrame ∈ scope)
    (free : m.captures scope S.probe.recorder.name = false) :
    ∃ outer, m.resolve? scope S.probe.recorder.name = some (.binding (globalFrame :: outer)) := by
  rw [resolve?]
  induction scope with
  | nil => cases hg
  | cons r outer ih =>
    simp only [captures, List.any_cons, Bool.or_eq_false_iff] at free
    obtain ⟨here, free⟩ := free
    rw [resolveWith?]
    by_cases hr : r = globalFrame
    · subst hr
      obtain ⟨f, _, bound, -⟩ := h.bound
      have isBound : m.isBound globalFrame S.probe.recorder.name = true := congrArg Option.isSome bound
      refine ⟨outer, ?_⟩
      cases hk : (m.frame globalFrame).kind with
      | object v => exact absurd hk (h.ground v)
      | _ => exact if_pos isBound
    · have further := ih ((List.mem_cons.1 hg).resolve_left (Ne.symm hr)) free
      cases hk : (m.frame r).kind with
      | object v =>
        rw [hk] at here
        exact further.imp fun _ found => (if_neg (Bool.eq_false_iff.1 here)).trans found
      | _ => exact further.imp fun _ found => (if_neg (Bool.eq_false_iff.1 (h.elsewhere r hr))).trans found

end Weave

/-! ### The run of a probe -/

section Lowered

variable (host : Host σ) (p : Probe) (s : Span) (scope : Scope) (m : Machine σ)

/-- With little fuel a probe does nothing. -/
theorem ofFuel_stmt_lowered_of_lt {n : Nat} (hn : n < 3) :
    (Evaluator.ofFuel host n).stmt scope [] (p.lowered s) m = .error .outOfFuel m := by
  match n with
  | 0 | 1 | 2 => rfl

/-- A call of a name that is bound to a recorder in the global frame, with a key and a range. -/
theorem ofFuel_expr_call {name : String} {outer : Scope}
    (found : m.resolve? scope name = some (.binding (globalFrame :: outer))) {r : FunctionRef}
    (bound : m.binding? globalFrame name = some (.function r)) {session : Nat}
    (kind : (m.heap.function r).kind = .native (.host (.recorder session))) (call callee a b c : Span) (key : String)
    (x y : Float) (n : Nat) :
    (Evaluator.ofFuel host (n + 2)).expr scope
        (.call call (.place (.name callee name)) [.string a key, .number b x, .number c y]) m =
      host.call (.recorder session) .undefined [.string key, .number x, .number y] m := by
  have value : (Evaluator.ofFuel host (n + 1)).expr scope (.place (.name callee name)) m = .ok (.function r) m := by
    change Run.getName _ scope name m = _
    rw [Run.getName, Run.get_bind, found]
    change EStateM.Result.ok ((m.binding? globalFrame name).getD .undefined) m = _
    rw [bound]
    rfl
  have target : (Evaluator.ofFuel host (n + 1)).callee scope (.place (.name callee name)) m =
      .ok (.function r, .undefined) m := Run.bind_of_ok value
  have called (args : List Value) : (Evaluator.ofFuel host (n + 1)).call (.function r) .undefined args m =
      host.call (.recorder session) .undefined args m := by
    change Evaluator.evalCall _ (.function r) .undefined args m = _
    rw [Evaluator.evalCall, Run.bind_of_ok (Run.see_eq _ m), kind]
    exact congrArg (fun h : Host σ => h.call (.recorder session) .undefined args m) (Simulation.host_ofFuel host n)
  exact (Run.bind_of_ok target).trans (called _)

/-- With more a probe calls its recorder, if it finds it. -/
theorem ofFuel_stmt_lowered {outer : Scope} (found : m.resolve? scope p.recorder.name = some (.binding (globalFrame :: outer)))
    {r : FunctionRef} (bound : m.binding? globalFrame p.recorder.name = some (.function r)) {session : Nat}
    (kind : (m.heap.function r).kind = .native (.host (.recorder session))) (n : Nat) :
    (Evaluator.ofFuel host (n + 3)).stmt scope [] (p.lowered s) m =
      (do
        let _ ← host.call (.recorder session) .undefined (p.arguments s)
        return .normal : Run σ Completion) m := by
  change EStateM.bind _ _ m = EStateM.bind _ _ m
  rw [EStateM.bind, EStateM.bind, ofFuel_expr_call host scope m found bound kind]
  rfl

end Lowered

namespace Simulation

variable {T : Simulation σ σ'}

/-- A probe does what the host of the first run does when the statement begins, if its recorder does. -/
theorem Follows.probed {host : Host σ} {host' : Host σ'} {scope : Scope} {s : Program.Stmt} (hg : globalFrame ∈ scope)
    (stops : ∀ m, m.captures scope T.probe.recorder.name = true → host.begins scope s m = .error .stopped m)
    (begins : ∀ m m', T.Related m m' → m.captures scope T.probe.recorder.name = false →
      T.Matches (fun _ _ => True) (host.begins scope s m)
        (host'.call (.recorder T.session) .undefined (T.probe.arguments s.span) m'))
    {n : Nat} (enough : T.lead = .first → 3 ≤ n) :
    T.Follows (fun _ c => c = .normal) (host.begins scope s)
      ((Evaluator.ofFuel host' n).stmt scope [] (T.probe.lowered s.span)) := by
  intro m m' hm
  by_cases hn : n < 3
  · -- three levels of fuel are for the statement, the call and its function
    rw [ofFuel_stmt_lowered_of_lt host' T.probe s.span scope m' hn]
    cases lead : T.lead with
    | first => exact absurd (enough lead) (by omega)
    | second => exact .second lead _ _
  obtain ⟨k, rfl⟩ : ∃ k, n = k + 3 := ⟨n - 3, by omega⟩
  cases free : m.captures scope T.probe.recorder.name with
  | true =>
    rw [stops m free]
    exact .stopped m _
  | false =>
    -- the name of the recorder leads to the global frame, where the recorder is found in the second run too
    obtain ⟨outer, found⟩ := hm.sound.resolve?_recorder hg free
    obtain ⟨r, f, bound, hf, kind⟩ := hm.sound.bound
    have kind' : (m'.heap.function r).kind = .native (.host (.recorder T.session)) := by
      have here : m.heap.function r = f := by rw [Heap.function, hf]; rfl
      rw [hm.heap, Weave.function_heap, here, Weave.function, kind]
      rfl
    rw [← hm.resolve?_eq] at found
    rw [← hm.binding?_eq] at bound
    rw [ofFuel_stmt_lowered host' T.probe s.span scope m' found bound kind' k]
    have recorded := begins m m' hm free
    change T.Matches _ _ (EStateM.bind _ _ m')
    rw [EStateM.bind]
    generalize host.begins scope s m = x at recorded ⊢
    generalize host'.call (.recorder T.session) .undefined (T.probe.arguments s.span) m' = y at recorded ⊢
    cases recorded with
    | ok _ hm => exact .ok rfl hm
    | failed e hm => exact .failed e hm
    | stopped m => exact .stopped m _
    | first h m => exact .first h m _
    | second h _ m => exact .second h _ m

end Simulation

end ScriptCoverage.Machine
