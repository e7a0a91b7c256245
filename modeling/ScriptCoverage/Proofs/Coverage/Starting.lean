import ScriptCoverage.Proofs.Coverage.Preparing

/-!
Starting sessions. Preparing modules changes the ledger only, so taking the recorder back undoes all that a script
could see. Main statement: `start_all_or_nothing` — a session starts iff its recorder name is free and every
module of the component can be read; if it does, the factories of just these modules are exchanged, and if not,
nothing is.
-/

namespace ScriptCoverage

open Machine (globalFrame)

variable {τ : Type}

namespace Session

/-! ### Starting -/

/-- The machine with a recorder exposed. -/
def exposed (m : Machine (Ledger τ)) (name : String) : Machine (Ledger τ) :=
  let m' := bindHostFunction m name (.recorder m.host.tables.size)
  { m' with host := { m'.host with tables := m'.host.tables.push {} } }

variable {c : Config} {generated : String} {m : Machine (Ledger τ)}

theorem start_of_invalid {fault : Source.ParseError}
    (h : Source.checkIdentifier (c.recorderName.getD generated) = .error fault) :
    start c generated m = .error (.invalidName (c.recorderName.getD generated) fault.message) m := by
  rw [start, h]
  rfl

theorem start_of_taken {recorder : Identifier}
    (h : Source.checkIdentifier (c.recorderName.getD generated) = .ok recorder)
    (taken : m.isBound globalFrame (c.recorderName.getD generated) = true) :
    start c generated m = .error (.nameTaken (c.recorderName.getD generated)) m := by
  rw [start, h]
  change (if m.isBound globalFrame (c.recorderName.getD generated) = true then _ else _ : Setup τ _) m = _
  rw [if_pos taken]
  rfl

theorem table_exposed (m : Machine (Ledger τ)) (name : String) :
    Recorder.table (exposed m name).host m.host.tables.size = {} := by
  change ((m.host.tables.push {})[m.host.tables.size]?).getD {} = {}
  rw [Array.getElem?_push_size]
  rfl

/-- With a new name the modules decide. -/
theorem start_of_fresh {recorder : Identifier}
    (h : Source.checkIdentifier (c.recorderName.getD generated) = .ok recorder)
    (fresh : m.isBound globalFrame (c.recorderName.getD generated) = false) :
    start c generated m = ((do
      let factories ← tryCatch (prepare c.component recorder m.host.tables.size
          (selectFactories m.registry c.component c.depsDir)) fun e => do
        withdraw (c.recorderName.getD generated) m.host.tables.size
        throw e
      patch factories
      return ⟨c.component, c.recorderName.getD generated, m.host.tables.size⟩) : Setup τ Session)
        (exposed m (c.recorderName.getD generated)) := by
  rw [start, h]
  change (if m.isBound globalFrame (c.recorderName.getD generated) = true then _ else _ : Setup τ _) m = _
  rw [if_neg (by simp [fresh])]
  rfl

/-- A machine with a recorder, the records of a session, and the factories for them. -/
def patched (m : Machine (Ledger τ)) (name : String) (rs : List Record) : Machine (Ledger τ) :=
  (withTable (exposed m name) m.host.tables.size (entered {} rs)).registerAll (rs.map fun r => (r.key, r.loaderFactory))

theorem start_of_collect {recorder : Identifier} {rs : List Record}
    (h : Source.checkIdentifier (c.recorderName.getD generated) = .ok recorder)
    (fresh : m.isBound globalFrame (c.recorderName.getD generated) = false)
    (hrs : collect m.registry c.component c.depsDir = .ok rs) :
    start c generated m = .ok ⟨c.component, c.recorderName.getD generated, m.host.tables.size⟩
      (patched m (c.recorderName.getD generated) (rs.map (·.cover recorder))) := by
  have room : m.host.tables.size < (exposed m (c.recorderName.getD generated)).host.tables.size := by
    change _ < (m.host.tables.push {}).size
    simp
  have prepared := prepare_of_ok recorder hrs room
  rw [table_exposed] at prepared
  rw [start_of_fresh h fresh]
  exact bind_of_ok (tryCatch_of_ok prepared _) _

theorem setIfInBounds_push {α : Type} (xs : Array α) (a b : α) :
    (xs.push a).setIfInBounds xs.size b = xs.push b := by
  refine Array.toList_inj.1 ?_
  rw [Array.toList_setIfInBounds, Array.toList_push, Array.toList_push, ← Array.length_toList,
    List.set_append_right _ _ (Nat.le_refl _), Nat.sub_self, List.set_cons_zero]

/-- Binding a new name and taking it back changes no frame. -/
theorem unbind_bind {σ : Type} {m : Machine σ} {name : String} (fresh : m.isBound globalFrame name = false)
    (v : Machine.Value) : (m.bind globalFrame name v).unbind globalFrame name = m := by
  have frames : (m.frames.modify globalFrame.index fun g => { g with bindings := g.bindings.put name v }).modify
      globalFrame.index (fun g => { g with bindings := g.bindings.erase name }) = m.frames := by
    refine Array.ext (by simp) fun i hi hi' => ?_
    simp only [Array.getElem_modify]
    split
    · next here =>
      subst here
      have absent : m.frames[globalFrame.index].bindings.contains name = false := by
        simpa [Machine.isBound, Machine.frame, hi'] using fresh
      rw [Table.erase_put_of_fresh _ _ _ absent]
    · rfl
  simp only [Machine.unbind, Machine.bind, Machine.modifyBindings, frames]

/-- What is left of a session that was taken back: a function that nothing refers to, and an empty table. -/
def withdrawn (m : Machine (Ledger τ)) (name : String) : Machine (Ledger τ) :=
  { m with
    heap := (exposed m name).heap
    host := { m.host with tables := m.host.tables.push {} } }

theorem withdraw_exposed {name : String} (fresh : m.isBound globalFrame name = false) (t : Table Record) :
    withdraw name m.host.tables.size (withTable (exposed m name) m.host.tables.size t) = .ok () (withdrawn m name) := by
  have frames := congrArg Machine.frames (unbind_bind fresh (Machine.Value.function ⟨m.heap.functions.size⟩))
  have tables : ((m.host.tables.push {}).setIfInBounds m.host.tables.size t).setIfInBounds m.host.tables.size {} =
      m.host.tables.push {} := by
    rw [setIfInBounds_push, setIfInBounds_push]
  change EStateM.Result.ok () ({ m with
    heap := (exposed m name).heap
    frames := ((m.bind globalFrame name (.function ⟨m.heap.functions.size⟩)).unbind globalFrame name).frames
    host := { m.host with
      tables := ((m.host.tables.push {}).setIfInBounds m.host.tables.size t).setIfInBounds m.host.tables.size {} } } :
      Machine (Ledger τ)) = _
  rw [frames, tables]
  rfl

theorem start_of_collect_error {recorder : Identifier} {e : CoverageError}
    (h : Source.checkIdentifier (c.recorderName.getD generated) = .ok recorder)
    (fresh : m.isBound globalFrame (c.recorderName.getD generated) = false)
    (he : collect m.registry c.component c.depsDir = .error e) :
    start c generated m = .error e (withdrawn m (c.recorderName.getD generated)) := by
  obtain ⟨t, prepared⟩ := prepare_of_error recorder m.host.tables.size he
    (exposed m (c.recorderName.getD generated))
  have undone : (do withdraw (c.recorderName.getD generated) m.host.tables.size; throw e : Setup τ _)
      (withTable (exposed m (c.recorderName.getD generated)) m.host.tables.size t) =
        (.error e (withdrawn m (c.recorderName.getD generated)) :
          EStateM.Result _ _ (List (String × Module.Factory))) :=
    bind_of_ok (withdraw_exposed fresh t) _
  rw [start_of_fresh h fresh]
  exact bind_of_error ((tryCatch_of_error prepared _).trans undone) _

/-! ### What has changed -/

theorem registerAll_eq {σ : Type} (m : Machine σ) (fs : List (String × Module.Factory)) :
    m.registerAll fs =
      { m with registry := m.registry.putAll fs, loaded := m.loaded.eraseAll (fs.map Prod.fst) } := by
  induction fs generalizing m with
  | nil => rfl
  | cons kf fs ih => exact ih _

theorem patched_eq (m : Machine (Ledger τ)) (name : String) (rs : List Record) :
    patched m name rs = { withTable (exposed m name) m.host.tables.size (entered {} rs) with
      registry := m.registry.putAll (rs.map fun r => (r.key, r.loaderFactory))
      loaded := m.loaded.eraseAll ((rs.map fun r => (r.key, r.loaderFactory)).map Prod.fst) } := by
  rw [patched, registerAll_eq]
  rfl

/-- Probes keep the keys under which records and their factories are put down. -/
theorem keys_covered {α : Type} (recorder : Identifier) (f : Record → α) (rs : List Record) :
    ((rs.map (·.cover recorder)).map fun r => (r.key, f r)).map Prod.fst = rs.map Record.key := by
  rw [List.map_map, List.map_map]
  exact List.map_congr_left fun r _ => r.key_cover recorder

end Session

/-! ### All or nothing -/

/-- Whether scripts see the same on two machines: the same modules, the same ones of them loaded, the same frames and
everything that was in the heap. No session has counted anything. -/
structure Undisturbed (m m' : Machine (Ledger τ)) : Prop where
  registry : m'.registry = m.registry
  loaded : m'.loaded = m.loaded
  frames : m'.frames = m.frames
  heap : ∃ fs, m'.heap = { m.heap with functions := m.heap.functions ++ fs }
  tables : ∀ i, Recorder.table m'.host i = Recorder.table m.host i

/-- Whether a session with a given name for its recorder can start. -/
structure Config.Startable (c : Config) (name : String) (m : Machine (Ledger τ)) : Prop where
  identifier : Identifier.fault? name = none
  free : m.isBound globalFrame name = false
  readable : ∀ key f, m.registry.get? key = some f → c.Selects key →
    ∃ t, Source.Script.parseWithLimit f.source instrumentedNesting = .ok t

/-- What the start of a session changes: the factories of the modules that it selects, which are no longer loaded,
and one global name. -/
structure Session.Patched (c : Config) (recorder : Identifier) (m : Machine (Ledger τ)) (s : Session)
    (m' : Machine (Ledger τ)) : Prop where
  component : s.component = c.component
  recorderName : s.recorderName = recorder.name
  ascending : (s.keys m'.host).Pairwise (· < ·)
  mem_keys : ∀ key, key ∈ s.keys m'.host ↔ m.registry.contains key ∧ c.Selects key
  registered : m'.registry.keys = m.registry.keys
  selected : ∀ key f, m.registry.get? key = some f → c.Selects key → ∃ r, Record.ofFactory c.component key f = .ok r ∧
    s.module? m'.host key = some (r.cover recorder) ∧
    (∃ f', Module.Factory.ofBody Module.Factory.loaderParams (r.cover recorder).instrumented = .ok f' ∧
      m'.registry.get? key = some f') ∧
    m'.loaded.get? key = none
  others : ∀ key, ¬ (m.registry.contains key ∧ c.Selects key) →
    m'.registry.get? key = m.registry.get? key ∧ m'.loaded.get? key = m.loaded.get? key
  frames : m'.frames = (m.bind globalFrame recorder.name (.function ⟨m.heap.functions.size⟩)).frames
  function : (m'.heap.function ⟨m.heap.functions.size⟩).kind = .native (.host (.recorder s.number))
  heap : ∃ fs, m'.heap = { m.heap with functions := m.heap.functions ++ fs }

namespace Session

theorem tables_push (m : Machine (Ledger τ)) (i : Nat) :
    Recorder.table ({ m.host with tables := m.host.tables.push {} }) i = Recorder.table m.host i := by
  rw [Recorder.table, Recorder.table, Array.getElem?_push]
  split
  · next h =>
    subst h
    simp
  · rfl

theorem undisturbed_withdrawn (m : Machine (Ledger τ)) (name : String) : Undisturbed m (withdrawn m name) where
  registry := rfl
  loaded := rfl
  frames := rfl
  heap := ⟨#[{ name, kind := .native (.host (.recorder m.host.tables.size)) }], by rw [← Array.push_eq_append]; rfl⟩
  tables := tables_push m

theorem undisturbed_refl (m : Machine (Ledger τ)) : Undisturbed m m :=
  ⟨rfl, rfl, rfl, ⟨#[], by simp⟩, fun _ => rfl⟩

theorem table_patched (m : Machine (Ledger τ)) (name : String) (rs : List Record) :
    Recorder.table (patched m name rs).host m.host.tables.size = entered {} rs := by
  rw [patched_eq]
  refine table_withTable ?_ _
  change _ < (m.host.tables.push {}).size
  simp

/-- What is put down for a module is found under its key: no other record that was collected has the key. -/
theorem get?_putAll_covered {c : Config} {m : Machine (Ledger τ)} {rs : List Record}
    (hrs : collect m.registry c.component c.depsDir = .ok rs) (recorder : Identifier) {α : Type} (f : Record → α)
    (t : Table α) {r : Record} (hr : r ∈ rs) :
    (t.putAll ((rs.map (·.cover recorder)).map fun r => (r.key, f r))).get? r.key = some (f (r.cover recorder)) := by
  have listed : r.key ∈ ((rs.map (·.cover recorder)).map fun r => (r.key, f r)).map Prod.fst := by
    rw [keys_covered]
    exact List.mem_map_of_mem hr
  obtain ⟨v, hv, found⟩ := Table.get?_putAll_of_mem (t := t) listed
  rw [List.map_map, List.mem_map] at hv
  obtain ⟨r', hr', same⟩ := hv
  obtain ⟨hk, rfl⟩ := Prod.mk.inj same
  -- records with one key are read from one factory, so they are the same
  obtain ⟨file, hfile, -, hread⟩ := (mem_of_collect hrs).1 hr
  obtain ⟨file', hfile', -, hread'⟩ := (mem_of_collect hrs).1 hr'
  rw [show r'.key = r.key from (r'.key_cover recorder).symm.trans hk] at hfile' hread'
  obtain rfl : file' = file := Option.some.inj (hfile'.symm.trans hfile)
  obtain rfl : r' = r := Except.ok.inj (hread'.symm.trans hread)
  exact found

/-- The modules of a component are patched if all of them can be read. -/
theorem patched_of_collect {c : Config} {m : Machine (Ledger τ)} {rs : List Record} (recorder : Identifier)
    (hrs : collect m.registry c.component c.depsDir = .ok rs) :
    Patched c recorder m ⟨c.component, recorder.name, m.host.tables.size⟩
      (patched m recorder.name (rs.map (·.cover recorder))) := by
  set m' := patched m recorder.name (rs.map (·.cover recorder)) with hm'
  have table : Recorder.table m'.host m.host.tables.size = entered {} (rs.map (·.cover recorder)) :=
    table_patched m recorder.name _
  have registry : m'.registry = m.registry.putAll ((rs.map (·.cover recorder)).map fun r => (r.key, r.loaderFactory)) := by
    rw [hm', patched_eq]
  have loaded : m'.loaded = m.loaded.eraseAll (rs.map Record.key) := by
    rw [hm', patched_eq, keys_covered]
  have heap : m'.heap = { m.heap with
      functions := m.heap.functions.push { name := recorder.name, kind := .native (.host (.recorder m.host.tables.size)) } } := by
    rw [hm', patched_eq]
    rfl
  have keys (key : String) := mem_keys_of_collect hrs key
  exact {
    component := rfl
    recorderName := rfl
    ascending := by
      rw [Session.keys, Session.table, table]
      exact Table.sortedKeys_ascending _ (Table.nodup_keys_putAll List.nodup_nil)
    mem_keys := fun key => by
      rw [Session.keys, Session.table, table, Table.mem_sortedKeys, entered, Table.contains_putAll, keys_covered, keys]
      exact or_iff_right nofun
    registered := by
      rw [registry]
      refine Table.keys_putAll_of_contains fun key hk => ?_
      rw [keys_covered, keys] at hk
      exact hk.1
    selected := fun key f found selected => by
      obtain ⟨r, hr⟩ := exists_collect.1 ⟨rs, hrs⟩ key f found selected
      obtain rfl : r.key = key := Record.key_ofFactory hr
      have listed : r ∈ rs := (mem_of_collect hrs).2 ⟨f, found, selected, hr⟩
      refine ⟨r, hr, ?_, ⟨_, Record.ofBody_instrumented _, ?_⟩, ?_⟩
      · rw [Session.module?, Session.table, table]
        exact get?_putAll_covered hrs recorder id {} listed
      · rw [registry]
        exact get?_putAll_covered hrs recorder Record.loaderFactory _ listed
      · rw [loaded, Table.get?_eraseAll, if_pos (List.mem_map_of_mem listed)]
    others := fun key other => by
      rw [← keys] at other
      rw [registry, loaded, Table.get?_putAll_of_not_mem (by rwa [keys_covered]), Table.get?_eraseAll, if_neg other]
      exact ⟨rfl, rfl⟩
    frames := by
      rw [hm', patched_eq]
      rfl
    function := by
      rw [heap, Machine.Heap.function, Array.getElem?_push_size]
      rfl
    heap := ⟨_, by rw [heap, Array.push_eq_append]⟩ }

theorem readable_iff (c : Config) (registry : Table Module.Factory) :
    (∀ key f, registry.get? key = some f → c.Selects key →
      ∃ t, Source.Script.parseWithLimit f.source instrumentedNesting = .ok t) ↔
      ∃ rs, collect registry c.component c.depsDir = .ok rs := by
  simp only [exists_collect, Record.exists_ofFactory]

variable {c : Config} {generated : String} {m m' : Machine (Ledger τ)} {s : Session}

theorem start_of_startable (can : c.Startable (c.recorderName.getD generated) m) :
    ∃ recorder s m', recorder.name = c.recorderName.getD generated ∧ start c generated m = .ok s m' ∧
      Patched c recorder m s m' := by
  obtain ⟨recorder, hn⟩ := exists_checkIdentifier.2 can.identifier
  obtain ⟨rs, hrs⟩ := (readable_iff c m.registry).1 can.readable
  have name : recorder.name = c.recorderName.getD generated := checkIdentifier_eq_ok hn
  refine ⟨recorder, _, _, name, start_of_collect hn can.free hrs, ?_⟩
  rw [← name]
  exact patched_of_collect recorder hrs

theorem start_of_not_startable (cannot : ¬ c.Startable (c.recorderName.getD generated) m) :
    ∃ e m', start c generated m = .error e m' ∧ Undisturbed m m' := by
  cases hn : Source.checkIdentifier (c.recorderName.getD generated) with
  | error fault => exact ⟨_, m, start_of_invalid hn, undisturbed_refl m⟩
  | ok recorder =>
    cases taken : m.isBound globalFrame (c.recorderName.getD generated) with
    | true => exact ⟨_, m, start_of_taken hn taken, undisturbed_refl m⟩
    | false =>
      cases hrs : collect m.registry c.component c.depsDir with
      | error e => exact ⟨e, _, start_of_collect_error hn taken hrs, undisturbed_withdrawn m _⟩
      | ok rs =>
        exact absurd ⟨exists_checkIdentifier.1 ⟨recorder, hn⟩, taken, (readable_iff c m.registry).2 ⟨rs, hrs⟩⟩ cannot

/-- What a session that started has changed. -/
theorem start_patched (h : start c generated m = .ok s m') : ∃ recorder, Patched c recorder m s m' := by
  by_cases can : c.Startable (c.recorderName.getD generated) m
  · obtain ⟨recorder, s', m'', -, started, patched⟩ := start_of_startable can
    cases h.symm.trans started
    exact ⟨recorder, patched⟩
  · obtain ⟨e, m'', failed, -⟩ := start_of_not_startable can
    exact nomatch h.symm.trans failed

/-- All or nothing: a session starts if its recorder name is a free identifier and every module that it selects can be
read, and then it exchanges the factories of just these modules; if not, it changes nothing that a script can see. -/
theorem start_all_or_nothing (c : Config) (generated : String) (m : Machine (Ledger τ)) :
    (c.Startable (c.recorderName.getD generated) m ∧ ∃ recorder s m', recorder.name = c.recorderName.getD generated ∧
      start c generated m = .ok s m' ∧ Patched c recorder m s m') ∨
    (¬ c.Startable (c.recorderName.getD generated) m ∧ ∃ e m', start c generated m = .error e m' ∧ Undisturbed m m') := by
  by_cases can : c.Startable (c.recorderName.getD generated) m
  · exact .inl ⟨can, start_of_startable can⟩
  · exact .inr ⟨can, start_of_not_startable can⟩

end Session

end ScriptCoverage
