import ScriptCoverage.Coverage.Session
import ScriptCoverage.Proofs.Coverage.Recording
import ScriptCoverage.Proofs.Table

/-!
Preparing the modules of a component: which ones they are, what their records are, and what preparing them does to
a machine. Main statements: `mem_of_collect` — what is collected are the records of the modules that the settings
select — and `prepare_of_ok` with `prepare_of_error` — preparing modules changes the table of the session only.
-/

namespace ScriptCoverage

open Machine (globalFrame)

variable {τ : Type}

/-! ### Names -/

theorem checkIdentifier_eq_ok {name : String} {r : Identifier} (h : Source.checkIdentifier name = .ok r) :
    r.name = name := by
  rw [Source.checkIdentifier, Identifier.check] at h
  split at h
  · cases h
    rfl
  · cases h

theorem exists_checkIdentifier {name : String} :
    (∃ r, Source.checkIdentifier name = .ok r) ↔ Identifier.fault? name = none := by
  rw [Source.checkIdentifier, Identifier.check]
  split
  · next h => exact iff_of_true ⟨_, rfl⟩ h
  · next fault h => exact iff_of_false (by simp [Except.mapError]) (by simp [h])

/-! ### Modules of a component -/

/-- Whether a key lies below a component and not below its dependency directory. -/
def Config.Selects (c : Config) (key : String) : Prop :=
  (c.component ++ "/").toList <+: key.toList ∧ ¬ (c.component ++ "/" ++ c.depsDir ++ "/").toList <+: key.toList

theorem isBelow_iff (directory key : String) : isBelow directory key = true ↔ (directory ++ "/").toList <+: key.toList :=
  List.isPrefixOf_iff_prefix

theorem isSelected_iff (c : Config) (key : String) : isSelected c.component c.depsDir key = true ↔ c.Selects key := by
  rw [isSelected, Bool.and_eq_true, Bool.not_eq_true', ← Bool.not_eq_true, isBelow_iff, isBelow_iff, Config.Selects]

instance (c : Config) (key : String) : Decidable (c.Selects key) := decidable_of_iff _ (isSelected_iff c key)

theorem mem_selectFactories {registry : Table Module.Factory} {c : Config} {key : String} {f : Module.Factory} :
    (key, f) ∈ selectFactories registry c.component c.depsDir ↔ registry.get? key = some f ∧ c.Selects key := by
  simp only [selectFactories, selectKeys, List.mem_filterMap, List.mem_filter, isSelected_iff, Table.mem_sortedKeys,
    Table.contains_iff_get?, Option.map_eq_some_iff, Prod.mk.injEq]
  constructor
  · rintro ⟨_, ⟨-, selected⟩, _, found, rfl, rfl⟩
    exact ⟨found, selected⟩
  · rintro ⟨found, selected⟩
    exact ⟨key, ⟨⟨f, found⟩, selected⟩, f, found, rfl, rfl⟩

/-! ### Records of modules -/

namespace Record

/-- Entering ranges changes neither what a record is about nor its text. -/
theorem foldl_addRange_keeps (ss : List Span) (r : Record) :
    (ss.foldl addRange r).key = r.key ∧ (ss.foldl addRange r).source = r.source := by
  induction ss generalizing r with
  | nil => exact ⟨rfl, rfl⟩
  | cons s ss ih => exact ih _

theorem cover_keeps (r : Record) (recorder : Identifier) :
    (r.cover recorder).key = r.key ∧ (r.cover recorder).source = r.source := by
  have inserted : (r.insert recorder).key = r.key ∧ (r.insert recorder).source = r.source := by
    unfold insert
    split
    · exact ⟨rfl, rfl⟩
    · exact foldl_addRange_keeps _ _
  rw [cover, regenerate]
  split <;> exact inserted

@[simp]
theorem key_cover (r : Record) (recorder : Identifier) : (r.cover recorder).key = r.key := (r.cover_keeps recorder).1

@[simp]
theorem source_cover (r : Record) (recorder : Identifier) : (r.cover recorder).source = r.source :=
  (r.cover_keeps recorder).2

theorem key_ofFactory {component key : String} {f : Module.Factory} {r : Record}
    (h : ofFactory component key f = .ok r) : r.key = key := by
  rw [ofFactory] at h
  split at h
  · cases h
    rfl
  · cases h

theorem source_ofFactory {component key : String} {f : Module.Factory} {r : Record}
    (h : ofFactory component key f = .ok r) : r.source = f.source := by
  rw [ofFactory] at h
  split at h
  · cases h
    rfl
  · cases h

theorem exists_ofFactory {component key : String} {f : Module.Factory} :
    (∃ r, ofFactory component key f = .ok r) ↔ ∃ t, Source.Script.parseWithLimit f.source instrumentedNesting = .ok t := by
  rw [ofFactory]
  cases Source.Script.parseWithLimit f.source instrumentedNesting with
  | ok t => exact iff_of_true ⟨_, rfl⟩ ⟨t, rfl⟩
  | error e => exact iff_of_false (by simp) (by simp)

/-- The factory that the loader calls with what it provides. -/
def loaderFactory (r : Record) : Module.Factory :=
  ⟨Module.Factory.loaderParams,
    "function(" ++ ", ".intercalate Module.Factory.loaderParams ++ ")\x7b\n" ++ r.instrumented ++ "\n\x7d", r.instrumented⟩

/-- The parameters that the loader provides are names, so there is always such a factory. -/
theorem ofBody_instrumented (r : Record) :
    Module.Factory.ofBody Module.Factory.loaderParams r.instrumented = .ok r.loaderFactory := rfl

end Record

section
variable {component key : String} {f : Module.Factory} {fs : List (String × Module.Factory)}

/-- Collecting ends with the first module that cannot be read. -/
theorem collectFrom_cons : collectFrom component ((key, f) :: fs) =
    match Record.ofFactory component key f with
    | .ok r => (collectFrom component fs).map (r :: ·)
    | .error e => .error e := by
  rw [collectFrom]
  cases Record.ofFactory component key f with
  | error e => rfl
  | ok r => cases collectFrom component fs <;> rfl

theorem collectFrom_cons_eq_ok {rs : List Record} : collectFrom component ((key, f) :: fs) = .ok rs ↔
    ∃ r rs', Record.ofFactory component key f = .ok r ∧ collectFrom component fs = .ok rs' ∧ rs = r :: rs' := by
  rw [collectFrom_cons]
  cases Record.ofFactory component key f with
  | error e => simp
  | ok r => cases collectFrom component fs <;> simp [Except.map, eq_comm]

theorem collectFrom_cons_eq_error {e : CoverageError} : collectFrom component ((key, f) :: fs) = .error e ↔
    Record.ofFactory component key f = .error e ∨
      ∃ r, Record.ofFactory component key f = .ok r ∧ collectFrom component fs = .error e := by
  rw [collectFrom_cons]
  cases Record.ofFactory component key f with
  | error e' => simp
  | ok r => cases collectFrom component fs <;> simp [Except.map]

end

/-- What is collected are the records of the modules. -/
theorem mem_of_collectFrom {component : String} {fs : List (String × Module.Factory)} {rs : List Record}
    (h : collectFrom component fs = .ok rs) {r : Record} :
    r ∈ rs ↔ ∃ key f, (key, f) ∈ fs ∧ Record.ofFactory component key f = .ok r := by
  induction fs generalizing rs with
  | nil =>
    cases h
    simp
  | cons kf fs ih =>
    obtain ⟨key, f⟩ := kf
    obtain ⟨first, later, hr, hrs, rfl⟩ := collectFrom_cons_eq_ok.1 h
    rw [List.mem_cons, ih hrs]
    constructor
    · rintro (rfl | ⟨k, f', hm, hf'⟩)
      · exact ⟨key, f, List.mem_cons_self, hr⟩
      · exact ⟨k, f', List.mem_cons_of_mem _ hm, hf'⟩
    · rintro ⟨k, f', hm, hf'⟩
      rcases List.mem_cons.1 hm with heq | hm
      · cases heq
        exact .inl (Except.ok.inj (hf'.symm.trans hr))
      · exact .inr ⟨k, f', hm, hf'⟩

theorem exists_collectFrom {component : String} {fs : List (String × Module.Factory)} :
    (∃ rs, collectFrom component fs = .ok rs) ↔
      ∀ key f, (key, f) ∈ fs → ∃ r, Record.ofFactory component key f = .ok r := by
  induction fs with
  | nil => exact iff_of_true ⟨[], rfl⟩ nofun
  | cons kf fs ih =>
    obtain ⟨key, f⟩ := kf
    constructor
    · rintro ⟨rs, h⟩ k f' hm
      obtain ⟨r, later, hr, hrs, -⟩ := collectFrom_cons_eq_ok.1 h
      rcases List.mem_cons.1 hm with heq | hm
      · cases heq
        exact ⟨r, hr⟩
      · exact ih.1 ⟨later, hrs⟩ k f' hm
    · intro all
      obtain ⟨r, hr⟩ := all key f List.mem_cons_self
      obtain ⟨later, hrs⟩ := ih.2 fun k f' hm => all k f' (List.mem_cons_of_mem _ hm)
      exact ⟨r :: later, collectFrom_cons_eq_ok.2 ⟨r, later, hr, hrs, rfl⟩⟩

/-- The records of a component's modules, if all of them can be read. -/
theorem mem_of_collect {registry : Table Module.Factory} {c : Config} {rs : List Record}
    (h : collect registry c.component c.depsDir = .ok rs) {r : Record} :
    r ∈ rs ↔ ∃ f, registry.get? r.key = some f ∧ c.Selects r.key ∧ Record.ofFactory c.component r.key f = .ok r := by
  rw [mem_of_collectFrom h]
  simp only [mem_selectFactories]
  constructor
  · rintro ⟨key, f, ⟨found, selected⟩, hr⟩
    obtain rfl : r.key = key := Record.key_ofFactory hr
    exact ⟨f, found, selected, hr⟩
  · rintro ⟨f, found, selected, hr⟩
    exact ⟨r.key, f, ⟨found, selected⟩, hr⟩

theorem exists_collect {registry : Table Module.Factory} {c : Config} :
    (∃ rs, collect registry c.component c.depsDir = .ok rs) ↔
      ∀ key f, registry.get? key = some f → c.Selects key → ∃ r, Record.ofFactory c.component key f = .ok r := by
  rw [collect, exists_collectFrom]
  simp only [mem_selectFactories, and_imp]

/-- What is collected depends on the keys that are registered and on the modules that the settings select. -/
theorem collect_congr {registry registry' : Table Module.Factory} {c : Config} (keys : registry'.keys = registry.keys)
    (same : ∀ key, registry.contains key → c.Selects key → registry'.get? key = registry.get? key) :
    collect registry' c.component c.depsDir = collect registry c.component c.depsDir := by
  have modules : selectFactories registry' c.component c.depsDir = selectFactories registry c.component c.depsDir := by
    rw [selectFactories, selectFactories, Table.sortedKeys, Table.sortedKeys, keys]
    refine List.filterMap_congr fun key listed => ?_
    rw [selectKeys, List.mem_filter, isSelected_iff, ← Table.sortedKeys, Table.mem_sortedKeys] at listed
    rw [same key listed.1 listed.2]
  rw [collect, collect, modules]

/-- The keys of what is collected are those that the settings select. -/
theorem mem_keys_of_collect {registry : Table Module.Factory} {c : Config} {rs : List Record}
    (h : collect registry c.component c.depsDir = .ok rs) (key : String) :
    key ∈ rs.map Record.key ↔ registry.contains key ∧ c.Selects key := by
  rw [List.mem_map, Table.contains_iff_get?]
  constructor
  · rintro ⟨r, hr, rfl⟩
    obtain ⟨f, found, selected, -⟩ := (mem_of_collect h).1 hr
    exact ⟨⟨f, found⟩, selected⟩
  · rintro ⟨⟨f, found⟩, selected⟩
    obtain ⟨r, hr⟩ := exists_collect.1 ⟨rs, h⟩ key f found selected
    obtain rfl : r.key = key := Record.key_ofFactory hr
    exact ⟨r, (mem_of_collect h).2 ⟨f, found, selected, hr⟩, rfl⟩

namespace Session

section
variable {α β : Type} {x : Setup τ α} {a : α} {e : CoverageError} {m m' : Machine (Ledger τ)}

theorem bind_of_ok (h : x m = .ok a m') (f : α → Setup τ β) : (x >>= f) m = f a m' := by
  simp only [bind, EStateM.bind, h]

theorem bind_of_error (h : x m = .error e m') (f : α → Setup τ β) : (x >>= f) m = .error e m' := by
  simp only [bind, EStateM.bind, h]

theorem tryCatch_of_ok (h : x m = .ok a m') (f : CoverageError → Setup τ α) : tryCatch x f m = .ok a m' := by
  simp only [tryCatch, tryCatchThe, MonadExceptOf.tryCatch, EStateM.tryCatch, h]

/-- A failure is handled on the machine that it left. -/
theorem tryCatch_of_error (h : x m = .error e m') (f : CoverageError → Setup τ α) : tryCatch x f m = f e m' := by
  simp only [tryCatch, tryCatchThe, MonadExceptOf.tryCatch, EStateM.tryCatch, h]
  rfl

end

/-! ### Preparing -/

/-- A machine with another table of a session. -/
def withTable (m : Machine (Ledger τ)) (number : Nat) (t : Table Record) : Machine (Ledger τ) :=
  { m with host := Recorder.setTable number t m.host }

theorem withTable_self (m : Machine (Ledger τ)) (number : Nat) :
    withTable m number (Recorder.table m.host number) = m := by
  rw [withTable, Recorder.setTable_table]

@[simp]
theorem withTable_withTable (m : Machine (Ledger τ)) (number : Nat) (t t' : Table Record) :
    withTable (withTable m number t) number t' = withTable m number t' := by
  simp [withTable, Recorder.setTable]

theorem table_withTable {m : Machine (Ledger τ)} {number : Nat} (h : number < m.host.tables.size) (t : Table Record) :
    Recorder.table (withTable m number t).host number = t := by
  simp [withTable, Recorder.setTable, Recorder.table, h]

/-- A table with records entered under their keys. -/
def entered (t : Table Record) (rs : List Record) : Table Record := t.putAll (rs.map fun r => (r.key, r))

variable {component : String} {recorder : Identifier} {number : Nat} {fs : List (String × Module.Factory)}

/-- What preparing a module that can be read leaves to the modules behind it. -/
theorem prepare_cons_of_ok {key : String} {f : Module.Factory} {r : Record}
    (h : Record.ofFactory component key f = .ok r) (m : Machine (Ledger τ)) :
    prepare component recorder number ((key, f) :: fs) m =
      (prepare component recorder number fs).map (((r.cover recorder).key, (r.cover recorder).loaderFactory) :: ·)
        (withTable m number ((Recorder.table m.host number).put (r.cover recorder).key (r.cover recorder))) := by
  rw [prepare, h]
  rfl

theorem prepare_cons_of_error {key : String} {f : Module.Factory} {e : CoverageError}
    (h : Record.ofFactory component key f = .error e) (m : Machine (Ledger τ)) :
    prepare component recorder number ((key, f) :: fs) m = .error e m := by
  rw [prepare, h]
  rfl

/-- Modules that can all be read are prepared: their records are entered with probes in them. -/
theorem prepare_of_ok (recorder : Identifier) {rs : List Record} (h : collectFrom component fs = .ok rs)
    {m : Machine (Ledger τ)} (hn : number < m.host.tables.size) :
    prepare component recorder number fs m =
      .ok ((rs.map (·.cover recorder)).map fun r => (r.key, r.loaderFactory))
        (withTable m number (entered (Recorder.table m.host number) (rs.map (·.cover recorder)))) := by
  induction fs generalizing rs m with
  | nil =>
    cases h
    exact congrArg (EStateM.Result.ok []) (withTable_self m number).symm
  | cons kf fs ih =>
    obtain ⟨key, f⟩ := kf
    obtain ⟨r, rs', hr, hrs, rfl⟩ := collectFrom_cons_eq_ok.1 h
    have room : number < (withTable m number ((Recorder.table m.host number).put (r.cover recorder).key
        (r.cover recorder))).host.tables.size := by
      simpa [withTable, Recorder.setTable] using hn
    rw [prepare_cons_of_ok hr, EStateM.map, ih hrs room, table_withTable hn, withTable_withTable]
    rfl

/-- Where one module cannot be read the table of the session is all that preparing has changed. -/
theorem prepare_of_error (recorder : Identifier) (number : Nat) {e : CoverageError}
    (h : collectFrom component fs = .error e) (m : Machine (Ledger τ)) :
    ∃ t, prepare component recorder number fs m = .error e (withTable m number t) := by
  induction fs generalizing m with
  | nil => cases h
  | cons kf fs ih =>
    obtain ⟨key, f⟩ := kf
    rcases collectFrom_cons_eq_error.1 h with hr | ⟨r, hr, hrs⟩
    · refine ⟨Recorder.table m.host number, ?_⟩
      rw [prepare_cons_of_error hr, withTable_self]
    · obtain ⟨t, later⟩ := ih hrs
        (withTable m number ((Recorder.table m.host number).put (r.cover recorder).key (r.cover recorder)))
      refine ⟨t, ?_⟩
      rw [prepare_cons_of_ok hr, EStateM.map, later, withTable_withTable]

end Session

end ScriptCoverage
