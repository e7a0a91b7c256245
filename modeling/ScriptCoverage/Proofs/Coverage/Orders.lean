import ScriptCoverage.Proofs.Coverage.Starting

/-!
Two sessions that start one after the other. What becomes of a session is up to its settings and to the modules that
they select (`Config.verdict`), and what its start changes is its own: its modules, the name of its recorder, and places
in heap and ledger that nothing had before. Main statement: `starts_commute` — sessions with different names for their
recorders and without common modules may start in either order.
-/

namespace ScriptCoverage

open Machine (globalFrame)

variable {τ : Type}

/-! ### Verdicts -/

/-- What becomes of a session that is to start while the name of its recorder is free. -/
inductive Verdict
  | refused (e : CoverageError)
  | withdrawn (e : CoverageError)
  | started (rs : List Record)

/-- The verdict by the name of the recorder and the records of the modules, or the first error among them. -/
def Verdict.of (name : String) (records : Except CoverageError (List Record)) : Verdict :=
  match Source.checkIdentifier name with
  | .error fault => .refused (.invalidName name fault.message)
  | .ok recorder =>
    match records with
    | .error e => .withdrawn e
    | .ok rs => .started (rs.map (·.cover recorder))

/-- The verdict on a session, by the modules that are registered. -/
def Config.verdict (c : Config) (name : String) (registry : Table Module.Factory) : Verdict :=
  .of name (collect registry c.component c.depsDir)

namespace Verdict

/-- The session that has started, or the error. -/
def result (component name : String) (number : Nat) : Verdict → Except CoverageError Session
  | refused e | withdrawn e => .error e
  | started _ => .ok ⟨component, name, number⟩

/-- The machine behind the start. -/
def machine (name : String) (m : Machine (Ledger τ)) : Verdict → Machine (Ledger τ)
  | refused _ => m
  | withdrawn _ => Session.withdrawn m name
  | started rs => Session.patched m name rs

/-- The factories that are exchanged. -/
def factories : Verdict → List (String × Module.Factory)
  | refused _ | withdrawn _ => []
  | started rs => rs.map fun r => (r.key, r.loaderFactory)

end Verdict

namespace Session

/-- What the start of a session comes to, with the machine that it leaves. -/
def attempt (c : Config) (generated : String) (m : Machine (Ledger τ)) :
    Except CoverageError Session × Machine (Ledger τ) :=
  match start c generated m with
  | .ok s m' => (.ok s, m')
  | .error e m' => (.error e, m')

/-- What the starts of two sessions come to, with the machine behind both. -/
structure Attempts (τ : Type) where
  first : Except CoverageError Session
  second : Except CoverageError Session
  after : Machine (Ledger τ)

/-- A session starts and then another one, whatever became of the first one. -/
def attemptBoth (c d : Config) (generated generated' : String) (m : Machine (Ledger τ)) : Attempts τ :=
  let (first, m) := attempt c generated m
  let (second, after) := attempt d generated' m
  { first, second, after }

theorem attempt_eq {c : Config} {generated : String} {m : Machine (Ledger τ)}
    (free : m.isBound globalFrame (c.recorderName.getD generated) = false) :
    let name := c.recorderName.getD generated
    let v := c.verdict name m.registry
    attempt c generated m = (v.result c.component name m.host.tables.size, v.machine name m) := by
  intro name v
  cases hn : Source.checkIdentifier name with
  | error fault =>
    simp only [v, attempt, start_of_invalid hn, Config.verdict, Verdict.of, hn, name]
    rfl
  | ok recorder =>
    cases hrs : collect m.registry c.component c.depsDir with
    | error e =>
      simp only [v, attempt, start_of_collect_error hn free hrs, Config.verdict, Verdict.of, hn, hrs, name]
      rfl
    | ok rs =>
      simp only [v, attempt, start_of_collect hn free hrs, Config.verdict, Verdict.of, hn, hrs, name]
      rfl

end Session

/-! ### What a start changes -/

namespace Verdict

variable (v : Verdict) (name : String) (m : Machine (Ledger τ))

theorem registry_machine : (v.machine name m).registry = m.registry.putAll v.factories := by
  cases v with
  | refused e | withdrawn e => rfl
  | started rs => rw [machine, Session.patched_eq, factories]

theorem loaded_machine : (v.machine name m).loaded = m.loaded.eraseAll (v.factories.map Prod.fst) := by
  cases v with
  | refused e | withdrawn e => rfl
  | started rs => rw [machine, Session.patched_eq, factories]

theorem frames_machine : (v.machine name m).frames = m.frames ∨
    (v.machine name m).frames = (m.bind globalFrame name (.function ⟨m.heap.functions.size⟩)).frames := by
  cases v with
  | refused e | withdrawn e => exact .inl rfl
  | started rs =>
    refine .inr ?_
    rw [machine, Session.patched_eq]
    rfl

theorem heap_machine :
    ∃ fs, (v.machine name m).heap = { m.heap with functions := m.heap.functions ++ fs } := by
  cases v with
  | refused e => exact ⟨#[], by rw [Array.append_empty]; rfl⟩
  | withdrawn e => exact (Session.undisturbed_withdrawn m name).heap
  | started rs =>
    refine ⟨#[{ name, kind := .native (.host (.recorder m.host.tables.size)) }], ?_⟩
    rw [machine, Session.patched_eq, ← Array.push_eq_append]
    rfl

theorem host_machine : ∃ ts, (v.machine name m).host = { m.host with tables := m.host.tables ++ ts } := by
  cases v with
  | refused e => exact ⟨#[], by rw [Array.append_empty]; rfl⟩
  | withdrawn e => exact ⟨#[{}], by rw [← Array.push_eq_append]; rfl⟩
  | started rs =>
    refine ⟨#[Session.entered {} rs], ?_⟩
    rw [machine, Session.patched_eq, ← Array.push_eq_append, ← Session.setIfInBounds_push m.host.tables {}]
    rfl

/-- Modules that are exchanged are registered and selected. -/
theorem of_mem_factories {c : Config} {registry : Table Module.Factory} {key : String}
    (h : key ∈ (c.verdict name registry).factories.map Prod.fst) : registry.contains key ∧ c.Selects key := by
  unfold Config.verdict Verdict.of at h
  split at h
  · cases h
  · split at h
    · cases h
    · next rs hrs =>
      rw [factories, Session.keys_covered] at h
      exact (mem_keys_of_collect hrs key).1 h

end Verdict

/-! ### What a start leaves alone -/

/-- Whether machines are the same except for their modules and for the values of some global names, as far as some
machine already had it: what is beyond its functions and tables may differ. -/
structure SameBut (names : List String) (base m m' : Machine (Ledger τ)) : Prop where
  objects : m'.heap.objects = m.heap.objects
  arrays : m'.heap.arrays = m.heap.arrays
  regexes : m'.heap.regexes = m.heap.regexes
  functions : ∀ r : Machine.FunctionRef, r.index < base.heap.functions.size → m'.heap.function r = m.heap.function r
  size : m'.frames.size = m.frames.size
  kinds : ∀ r, (m'.frame r).kind = (m.frame r).kind
  bindings : ∀ r name, r ≠ globalFrame ∨ name ∉ names → m'.binding? r name = m.binding? r name
  depth : m'.depth = m.depth
  console : m'.console = m.console
  tables : ∀ i < base.host.tables.size, Recorder.table m'.host i = Recorder.table m.host i
  rest : m'.host.rest = m.host.rest

namespace SameBut

variable {names : List String} {base m m' m'' : Machine (Ledger τ)}

theorem symm (h : SameBut names base m m') : SameBut names base m' m :=
  ⟨h.objects.symm, h.arrays.symm, h.regexes.symm, fun r hr => (h.functions r hr).symm, h.size.symm,
    fun r => (h.kinds r).symm, fun r name other => (h.bindings r name other).symm, h.depth.symm, h.console.symm,
    fun i hi => (h.tables i hi).symm, h.rest.symm⟩

theorem trans (h : SameBut names base m m') (h' : SameBut names base m' m'') : SameBut names base m m'' :=
  ⟨h'.objects.trans h.objects, h'.arrays.trans h.arrays, h'.regexes.trans h.regexes,
    fun r hr => (h'.functions r hr).trans (h.functions r hr), h'.size.trans h.size,
    fun r => (h'.kinds r).trans (h.kinds r),
    fun r name other => (h'.bindings r name other).trans (h.bindings r name other), h'.depth.trans h.depth,
    h'.console.trans h.console, fun i hi => (h'.tables i hi).trans (h.tables i hi), h'.rest.trans h.rest⟩

end SameBut

namespace Verdict

variable (v : Verdict) (name : String) (m : Machine (Ledger τ))

theorem functions_machine : m.heap.functions.size ≤ (v.machine name m).heap.functions.size := by
  obtain ⟨fs, heap⟩ := v.heap_machine name m
  rw [heap, Array.size_append]
  exact Nat.le_add_right _ _

theorem tables_machine : m.host.tables.size ≤ (v.machine name m).host.tables.size := by
  obtain ⟨ts, host⟩ := v.host_machine name m
  rw [host, Array.size_append]
  exact Nat.le_add_right _ _

theorem size_frames_machine : (v.machine name m).frames.size = m.frames.size := by
  rcases v.frames_machine name m with frames | frames
  · rw [frames]
  · rw [frames]
    exact Array.size_modify

theorem kind_machine (r : Machine.FrameRef) : ((v.machine name m).frame r).kind = (m.frame r).kind := by
  rcases v.frames_machine name m with frames | frames
  · rw [Machine.frame, frames]
    rfl
  · rw [Machine.frame, frames]
    exact Machine.kind_modifyBindings m globalFrame r _

theorem binding?_machine {r : Machine.FrameRef} {other : String} (ne : r ≠ globalFrame ∨ other ≠ name) :
    (v.machine name m).binding? r other = m.binding? r other := by
  rcases v.frames_machine name m with frames | frames
  · rw [Machine.binding?, Machine.frame, frames]
    rfl
  · rw [Machine.binding?, Machine.frame, frames]
    exact Machine.binding?_bind_elsewhere m ne _

theorem isBound_machine {other : String} (ne : other ≠ name) :
    (v.machine name m).isBound globalFrame other = m.isBound globalFrame other :=
  congrArg Option.isSome (v.binding?_machine name m (.inr ne))

theorem function_machine {r : Machine.FunctionRef} (there : r.index < m.heap.functions.size) :
    (v.machine name m).heap.function r = m.heap.function r := by
  obtain ⟨fs, heap⟩ := v.heap_machine name m
  rw [Machine.Heap.function, Machine.Heap.function, heap, Array.getElem?_append_left there]

theorem table_machine {i : Nat} (there : i < m.host.tables.size) :
    Recorder.table (v.machine name m).host i = Recorder.table m.host i := by
  obtain ⟨ts, host⟩ := v.host_machine name m
  rw [Recorder.table, Recorder.table, host, Array.getElem?_append_left there]

variable {name m} in
/-- A start changes modules and one global name, and gives heap and ledger new places. -/
theorem sameBut_machine {names : List String} {base : Machine (Ledger τ)} (listed : name ∈ names)
    (functions : base.heap.functions.size ≤ m.heap.functions.size)
    (tables : base.host.tables.size ≤ m.host.tables.size) : SameBut names base m (v.machine name m) := by
  obtain ⟨fs, heap⟩ := v.heap_machine name m
  obtain ⟨ts, host⟩ := v.host_machine name m
  exact {
    objects := by rw [heap]
    arrays := by rw [heap]
    regexes := by rw [heap]
    functions := fun r there => v.function_machine name m (there.trans_le functions)
    size := v.size_frames_machine name m
    kinds := v.kind_machine name m
    bindings := fun r other ne => v.binding?_machine name m <| ne.imp_right fun absent same => absent (same ▸ listed)
    depth := by
      cases v with
      | refused e | withdrawn e => rfl
      | started rs =>
        rw [machine, Session.patched_eq]
        rfl
    console := by
      cases v with
      | refused e | withdrawn e => rfl
      | started rs =>
        rw [machine, Session.patched_eq]
        rfl
    tables := fun i there => v.table_machine name m (there.trans_le tables)
    rest := by rw [host] }

end Verdict

/-! ### What comes of sessions -/

/-- Whether the recorder of a session is the value of its global name, on a machine with a global frame. -/
def Session.IsExposed (s : Session) (m : Machine (Ledger τ)) : Prop :=
  0 < m.frames.size → ∃ r : Machine.FunctionRef, r.index < m.heap.functions.size ∧
    m.binding? globalFrame s.recorderName = some (.function r) ∧
    (m.heap.function r).kind = .native (.host (.recorder s.number))

/-- Whether the verdict on a session shows on a machine: where it has started its recorder is exposed and its table is
filled, and where it has not its name is free. -/
def Verdict.Shows (component name : String) (m : Machine (Ledger τ)) (r : Except CoverageError Session) : Verdict → Prop
  | .refused e | .withdrawn e => r = .error e ∧ m.isBound globalFrame name = false
  | .started rs => ∃ s, r = .ok s ∧ s.component = component ∧ s.recorderName = name ∧ s.number < m.host.tables.size ∧
      s.table m.host = Session.entered {} rs ∧ s.IsExposed m

/-- Whether the start of a session came to the same on two machines: the session did not start for the same reason, or
it started and has the same table, whatever its number is. -/
inductive SameStart (name : String) (m m' : Machine (Ledger τ)) :
    Except CoverageError Session → Except CoverageError Session → Prop
  | failed (e : CoverageError) (free : m.isBound globalFrame name = false)
    (free' : m'.isBound globalFrame name = false) : SameStart name m m' (.error e) (.error e)
  | started {s s' : Session} (component : s.component = s'.component) (named : s.recorderName = name)
    (named' : s'.recorderName = name) (exposed : s.IsExposed m) (exposed' : s'.IsExposed m')
    (table : s.table m.host = s'.table m'.host) : SameStart name m m' (.ok s) (.ok s')

namespace Verdict

variable {v : Verdict} {component name : String} {m m' : Machine (Ledger τ)} {r r' : Except CoverageError Session}

theorem Shows.same (h : v.Shows component name m r) (h' : v.Shows component name m' r') : SameStart name m m' r r' := by
  cases v with
  | refused e | withdrawn e =>
    obtain ⟨rfl, free⟩ := h
    obtain ⟨rfl, free'⟩ := h'
    exact .failed e free free'
  | started rs =>
    obtain ⟨s, rfl, component, named, -, table, exposed⟩ := h
    obtain ⟨s', rfl, component', named', -, table', exposed'⟩ := h'
    exact .started (component.trans component'.symm) named named' exposed exposed' (table.trans table'.symm)

/-- Behind its start the verdict on a session shows. -/
theorem shows_machine (v : Verdict) (component : String) (free : m.isBound globalFrame name = false) :
    v.Shows component name (v.machine name m) (v.result component name m.host.tables.size) := by
  cases v with
  | refused e | withdrawn e => exact ⟨rfl, free⟩
  | started rs =>
    have table : Recorder.table (machine name m (started rs)).host m.host.tables.size = Session.entered {} rs :=
      Session.table_patched m name rs
    have room : m.host.tables.size < (machine name m (started rs)).host.tables.size := by
      rw [machine, Session.patched_eq]
      change _ < ((m.host.tables.push {}).setIfInBounds _ _).size
      simp
    refine ⟨_, rfl, rfl, rfl, room, table, fun global => ⟨⟨m.heap.functions.size⟩, ?_, ?_, ?_⟩⟩
    · rw [machine, Session.patched_eq]
      change _ < (m.heap.functions.push _).size
      simp
    · rw [size_frames_machine] at global
      rw [machine, Session.patched_eq]
      exact Machine.binding?_bind_self global name _
    · rw [machine, Session.patched_eq]
      change (((m.heap.functions.push _)[m.heap.functions.size]?).getD default).kind = _
      rw [Array.getElem?_push_size]
      rfl

/-- What starts later hides nothing of it. -/
theorem Shows.later (h : v.Shows component name m r) {other : String} (ne : name ≠ other) (w : Verdict) :
    v.Shows component name (w.machine other m) r := by
  cases v with
  | refused e | withdrawn e => exact ⟨h.1, (w.isBound_machine other m ne).trans h.2⟩
  | started rs =>
    obtain ⟨s, rfl, component, named, room, table, exposed⟩ := h
    refine ⟨s, rfl, component, named, room.trans_le (w.tables_machine other m),
      (w.table_machine other m room).trans table, fun global => ?_⟩
    rw [size_frames_machine] at global
    obtain ⟨f, there, bound, kind⟩ := exposed global
    refine ⟨f, there.trans_le (w.functions_machine other m), ?_, ?_⟩
    · rw [w.binding?_machine other m (.inr (named ▸ ne)), bound]
    · rw [w.function_machine other m there, kind]

theorem number_of_shows {s : Session} (h : v.Shows component name m (.ok s)) : s.number < m.host.tables.size := by
  cases v with
  | refused e | withdrawn e => exact nomatch h.1
  | started rs =>
    obtain ⟨_, same, -, -, room, -, -⟩ := h
    cases same
    exact room

theorem number_of_result {s : Session} {number : Nat} (h : v.result component name number = .ok s) :
    s.number = number := by
  cases v with
  | refused e | withdrawn e => cases h
  | started rs =>
    cases h
    rfl

/-- Where two sessions have no module in common, the start of one changes nothing in the verdict on the other one. -/
theorem verdict_machine {c d : Config} (m : Machine (Ledger τ))
    (apart : ∀ key, m.registry.contains key → ¬ (c.Selects key ∧ d.Selects key)) (name other : String) :
    d.verdict other ((c.verdict name m.registry).machine name m).registry = d.verdict other m.registry := by
  have selected (key : String) (h : key ∈ (c.verdict name m.registry).factories.map Prod.fst) := of_mem_factories name h
  have same : collect ((c.verdict name m.registry).machine name m).registry d.component d.depsDir =
      collect m.registry d.component d.depsDir := by
    rw [registry_machine]
    refine collect_congr (Table.keys_putAll_of_contains fun key h => (selected key h).1) fun key there chosen => ?_
    exact Table.get?_putAll_of_not_mem fun h => apart key there ⟨(selected key h).2, chosen⟩
  rw [Config.verdict, same, Config.verdict]

end Verdict

/-! ### Either order -/

namespace Session

variable {c d : Config} {generated generated' : String} {m : Machine (Ledger τ)}

/-- Whether two sessions keep out of each other's way on a machine: the names of their recorders are free and different,
and no module is selected by both. -/
structure Separate (c d : Config) (generated generated' : String) (m : Machine (Ledger τ)) : Prop where
  names : c.recorderName.getD generated ≠ d.recorderName.getD generated'
  free : m.isBound globalFrame (c.recorderName.getD generated) = false
  free' : m.isBound globalFrame (d.recorderName.getD generated') = false
  modules : ∀ key, m.registry.contains key → ¬ (c.Selects key ∧ d.Selects key)

theorem Separate.symm (h : Separate c d generated generated' m) : Separate d c generated' generated m :=
  ⟨h.names.symm, h.free', h.free, fun key there chosen => h.modules key there chosen.symm⟩

/-- What two starts come to whose verdicts do not depend on each other. -/
theorem attemptBoth_eq (h : Separate c d generated generated' m) :
    let name := c.recorderName.getD generated
    let name' := d.recorderName.getD generated'
    let v := c.verdict name m.registry
    let w := d.verdict name' m.registry
    attemptBoth c d generated generated' m =
      { first := v.result c.component name m.host.tables.size
        second := w.result d.component name' (v.machine name m).host.tables.size
        after := w.machine name' (v.machine name m) } := by
  intro name name' v w
  have still : (v.machine name m).isBound globalFrame name' = false :=
    (v.isBound_machine name m h.names.symm).trans h.free'
  have same : d.verdict name' (v.machine name m).registry = w := Verdict.verdict_machine m h.modules name name'
  simp only [attemptBoth, attempt_eq h.free]
  rw [attempt_eq still, same]

/-- Sessions that start one after the other have different numbers. -/
theorem numbers_ne (h : Separate c d generated generated' m) {s s' : Session}
    (first : (attemptBoth c d generated generated' m).first = .ok s)
    (second : (attemptBoth c d generated generated' m).second = .ok s') : s.number ≠ s'.number := by
  rw [attemptBoth_eq h] at first second
  dsimp only at first second
  set v := c.verdict (c.recorderName.getD generated) m.registry
  have shows := v.shows_machine c.component h.free
  rw [first] at shows
  rw [Verdict.number_of_result second]
  exact (Verdict.number_of_shows shows).ne

/-- Separate sessions may start in either order: each of them starts or fails alike, and the modules, the loaded ones,
and all else that was there come to the same. -/
theorem starts_commute (h : Separate c d generated generated' m) :
    let both := attemptBoth c d generated generated' m
    let both' := attemptBoth d c generated' generated m
    SameStart (c.recorderName.getD generated) both.after both'.after both.first both'.second ∧
    SameStart (d.recorderName.getD generated') both.after both'.after both.second both'.first ∧
    both'.after.registry = both.after.registry ∧ both'.after.loaded = both.after.loaded ∧
    SameBut [c.recorderName.getD generated, d.recorderName.getD generated'] m both.after both'.after := by
  intro both both'
  set name := c.recorderName.getD generated
  set name' := d.recorderName.getD generated'
  set v := c.verdict name m.registry
  set w := d.verdict name' m.registry
  have hboth : both = _ := attemptBoth_eq h
  have hboth' : both' = _ := attemptBoth_eq h.symm
  have first := (v.shows_machine c.component h.free).later h.names w
  have first' := (w.shows_machine d.component h.free').later h.names.symm v
  have second := w.shows_machine d.component ((v.isBound_machine name m h.names.symm).trans h.free')
  have second' := v.shows_machine c.component ((w.isBound_machine name' m h.names).trans h.free)
  rw [hboth, hboth']
  refine ⟨first.same second', second.same first', ?_, ?_, ?_⟩
  · -- Modules that are exchanged were registered before, so they keep their places in both orders.
    have selected (key : String) (hk : key ∈ v.factories.map Prod.fst) := Verdict.of_mem_factories name hk
    simp only [Verdict.registry_machine]
    refine (Table.putAll_comm (fun key hk => (selected key hk).1) fun key hk hk' => ?_).symm
    exact h.modules key (selected key hk).1 ⟨(selected key hk).2, (Verdict.of_mem_factories name' hk').2⟩
  · simp only [Verdict.loaded_machine]
    exact Table.eraseAll_comm ..
  · -- Either way all that was there is as it was at the start.
    have listed : name ∈ [name, name'] := List.mem_cons_self
    have listed' : name' ∈ [name, name'] := List.mem_cons_of_mem _ List.mem_cons_self
    have fromStart : SameBut [name, name'] m m (w.machine name' (v.machine name m)) :=
      (v.sameBut_machine listed le_rfl le_rfl).trans
        (w.sameBut_machine listed' (v.functions_machine name m) (v.tables_machine name m))
    have fromStart' : SameBut [name, name'] m m (v.machine name (w.machine name' m)) :=
      (w.sameBut_machine listed' le_rfl le_rfl).trans
        (v.sameBut_machine listed (w.functions_machine name' m) (w.tables_machine name' m))
    exact fromStart.symm.trans fromStart'

end Session

end ScriptCoverage
