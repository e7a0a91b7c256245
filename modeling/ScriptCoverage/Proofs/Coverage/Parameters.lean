import ScriptCoverage.Proofs.Coverage.Capture
import ScriptCoverage.Proofs.Module.SourceText

/-!
What the parameters of a patched module mean. The loader passes exports, a function `require` and the module, and a
factory binds its parameters to them in turn; where a name comes twice the last one counts. Main statements:
`patched_parameters` — a patched factory binds `exports`, `require` and `module` and nothing else, so that a
parameter of the original keeps its argument iff its last place is the one that the loader gives it — and
`renamed_parameter_lost` — a module that gives its parameter another name cannot be loaded behind a session.
-/

namespace ScriptCoverage

open Machine

variable {σ τ : Type}

namespace Machine

/-- The last place of a name in a list. -/
def lastPlace? (name : String) : List String → Option Nat
  | [] => none
  | p :: ps => ((lastPlace? name ps).map (· + 1)).or (if p = name then some 0 else none)

theorem lastPlace?_eq_none {name : String} {ps : List String} : lastPlace? name ps = none ↔ name ∉ ps := by
  induction ps with
  | nil => simp [lastPlace?]
  | cons p ps ih =>
    by_cases here : p = name
    · simp [lastPlace?, here]
    · simp [lastPlace?, here, ih, Ne.symm here]

/-- The last parameter of a name decides what it is bound to. -/
theorem get?_bindParams (t : Table Value) (ps : List String) (args : List Value) (name : String) :
    (bindParams t ps args).get? name =
      ((lastPlace? name ps).map fun i => args[i]?.getD .undefined).or (t.get? name) := by
  induction ps generalizing t args with
  | nil => rfl
  | cons p ps ih =>
    rw [bindParams, ih, Table.get?_put, lastPlace?]
    cases later : lastPlace? name ps with
    | some i => simp
    | none =>
      by_cases here : p = name
      · simp [here, List.head?_eq_getElem?]
      · simp [here]

end Machine

/-! ### Arguments of the loader -/

namespace Module.Factory

/-- What a factory binds when the loader calls it with what it provides. -/
def bindings (f : Module.Factory) (exports require module : Value) : Table Value :=
  bindParams {} f.params [exports, require, module]

/-- The body of a factory runs in a frame with these bindings, directly inside the global scope. -/
theorem runFactory_bindings (ev : Evaluator σ) (f : Module.Factory) (program : Program)
    (this exports require module : Value) :
    ev.runFactory f.params program this [exports, require, module] = (do
      let scope ← Run.openFrame (.function this) (f.bindings exports require module) globalScope
      Run.hoist scope (Program.Declared.ofBody program.body)
      let _ ← ev.body scope program.body) := rfl

/-- A module that is not loaded is run by its factory. -/
theorem load_of_not_loaded (ev : Evaluator σ) {key : String} {f : Module.Factory} {program : Program} {m : Machine σ}
    (registered : m.registry.get? key = some f) (unloaded : m.loaded.get? key = none)
    (compiled : f.compile = .ok program) : ev.load key m = ev.runModule key f program m := by
  have look (next : Machine σ → Run σ Value) : (get >>= next) m = next m m := rfl
  rw [Evaluator.load, look, registered, unloaded]
  simp only [compiled]

/-- Whether a factory gives a parameter the place that it has among those of the loader. -/
def KeepsPlace (f : Module.Factory) (name : String) : Prop :=
  ∃ i, lastPlace? name f.params = some i ∧ loaderParams[i]? = some name

theorem get?_bindings (f : Module.Factory) (exports require module : Value) (name : String) :
    (f.bindings exports require module).get? name =
      (lastPlace? name f.params).map fun i => [exports, require, module][i]?.getD .undefined := by
  rw [bindings, get?_bindParams]
  exact Option.or_none

variable {f' : Module.Factory} (standard : f'.params = loaderParams)

include standard

theorem get?_bindings_of_mem {i : Nat} {name : String} (h : loaderParams[i]? = some name) (exports require module : Value) :
    (f'.bindings exports require module).get? name = some ([exports, require, module][i]?.getD .undefined) := by
  have last : lastPlace? name loaderParams = some i := by
    obtain rfl | rfl | rfl | beyond : i = 0 ∨ i = 1 ∨ i = 2 ∨ loaderParams.length ≤ i := by
      simp only [loaderParams, List.length_cons, List.length_nil]
      omega
    · cases h
      decide
    · cases h
      decide
    · cases h
      decide
    · rw [List.getElem?_eq_none beyond] at h
      cases h
  rw [get?_bindings, standard, last]
  rfl

theorem get?_bindings_of_not_mem {name : String} (h : name ∉ loaderParams) (exports require module : Value) :
    (f'.bindings exports require module).get? name = none := by
  rw [get?_bindings, standard, lastPlace?_eq_none.2 h]
  rfl

/-- A parameter keeps its argument, whatever the loader provides, iff it keeps its place. -/
theorem bindings_eq_iff {f : Module.Factory} {name : String} (parameter : name ∈ f.params) :
    (∀ exports require module : Value,
      (f'.bindings exports require module).get? name = (f.bindings exports require module).get? name) ↔
      f.KeepsPlace name := by
  obtain ⟨i, last⟩ : ∃ i, lastPlace? name f.params = some i :=
    Option.ne_none_iff_exists'.1 fun absent => lastPlace?_eq_none.1 absent parameter
  constructor
  · -- Arguments that name their places tell which one a parameter has got.
    intro same
    have told := same (.string "exports") (.string "require") (.string "module")
    have named (j : Nat) : [Value.string "exports", .string "require", .string "module"][j]? =
        loaderParams[j]?.map .string := by
      rw [← List.getElem?_map]
      rfl
    by_cases known : name ∈ loaderParams
    · obtain ⟨j, hj⟩ := List.mem_iff_getElem?.1 known
      rw [get?_bindings_of_mem standard hj, get?_bindings, last, Option.map_some, named, named, hj] at told
      refine ⟨i, last, ?_⟩
      cases hi : loaderParams[i]? with
      | none => simp [hi] at told
      | some p => simpa [hi, eq_comm] using told
    · rw [get?_bindings_of_not_mem standard known, get?_bindings, last] at told
      cases told
  · rintro ⟨i', last', place⟩ exports require module
    rw [get?_bindings_of_mem standard place, get?_bindings, last']
    rfl

end Module.Factory

/-! ### Modules for examples -/

namespace Repeated

def factory : Module.Factory :=
  ⟨["_", "_", "module"], "function(_, _, module)\x7b module.exports = 1; \x7d", " module.exports = 1; "⟩

def machine : Machine (Ledger Unit) := (Machine.bare ⟨#[], ()⟩).register "m/index.js" factory

end Repeated

namespace Renamed

def factory : Module.Factory := ⟨["e"], "function(e)\x7b e.x = 1; \x7d", " e.x = 1; "⟩

def machine : Machine (Ledger Unit) := (Machine.bare ⟨#[], ()⟩).register "m/index.js" factory

/-- Whether a run ended at a name that is not bound. -/
def failsUnbound {α : Type} (name : String) : EStateM.Result Interrupt (Machine σ) α → Bool
  | .error (.failed (.unbound n)) _ => n == name
  | _ => false

end Renamed

/-! ### Patched modules -/

namespace Session

open Module.Factory (loaderParams)

variable {c : Config} {generated : String} {m m' : Machine (Ledger τ)} {s : Session}

/-- A patched module is run anew when it is loaded next. Whatever the parameters of the original, its factory binds
`exports`, `require` and `module` to what the loader provides, and nothing else. So a parameter of the original
keeps its argument iff its last place among the parameters is the place of its name among these three. -/
theorem patched_parameters (started : start c generated m = .ok s m') {key : String} {f : Module.Factory}
    (registered : m.registry.get? key = some f) (selected : c.Selects key) :
    ∃ f', m'.registry.get? key = some f' ∧ m'.loaded.get? key = none ∧ f'.params = loaderParams ∧
      (∀ (ev : Evaluator (Ledger τ)) program, f'.compile = .ok program →
        ev.load key m' = ev.runModule key f' program m' ∧
        ∀ this exports require module : Value, ev.runFactory f'.params program this [exports, require, module] = (do
          let scope ← Run.openFrame (.function this) (f'.bindings exports require module) globalScope
          Run.hoist scope (Program.Declared.ofBody program.body)
          let _ ← ev.body scope program.body)) ∧
      (∀ exports require module : Value, (f'.bindings exports require module).get? "exports" = some exports ∧
        (f'.bindings exports require module).get? "require" = some require ∧
        (f'.bindings exports require module).get? "module" = some module) ∧
      (∀ name, name ∉ loaderParams → ∀ exports require module : Value,
        (f'.bindings exports require module).get? name = none) ∧
      ∀ name ∈ f.params, (∀ exports require module : Value,
        (f'.bindings exports require module).get? name = (f.bindings exports require module).get? name) ↔
          f.KeepsPlace name := by
  obtain ⟨recorder, patched⟩ := start_patched started
  obtain ⟨r, -, -, ⟨f', written, found⟩, unloaded⟩ := patched.selected key f registered selected
  have standard : f'.params = loaderParams := congrArg Module.Factory.params (Module.Factory.ofBody_eq_ok written).2
  refine ⟨f', found, unloaded, standard, ?_, ?_, ?_, ?_⟩
  · intro ev program compiled
    refine ⟨Module.Factory.load_of_not_loaded ev found unloaded compiled, ?_⟩
    intro this exports require module
    exact Module.Factory.runFactory_bindings ev f' program this exports require module
  · intro exports require module
    refine ⟨?_, ?_, ?_⟩
    · exact Module.Factory.get?_bindings_of_mem standard (i := 0) rfl exports require module
    · exact Module.Factory.get?_bindings_of_mem standard (i := 1) rfl exports require module
    · exact Module.Factory.get?_bindings_of_mem standard (i := 2) rfl exports require module
  · intro name absent exports require module
    exact Module.Factory.get?_bindings_of_not_mem standard absent exports require module
  · intro name parameter
    exact Module.Factory.bindings_eq_iff standard parameter

/-- It is so for `function(_, _, module){ module.exports = 1; }`: its last parameter keeps its argument, the other
ones are gone. -/
theorem patched_parameters_repeated :
    ∃ s m' f', start { component := "m", recorderName := some "cov" } "" Repeated.machine = .ok s m' ∧
      m'.registry.get? "m/index.js" = some f' ∧
      (∀ exports require module : Value,
        (f'.bindings exports require module).get? "module" = (Repeated.factory.bindings exports require module).get? "module") ∧
      ∀ exports require module : Value, (f'.bindings exports require module).get? "_" = none ∧
        (Repeated.factory.bindings exports require module).get? "_" = some require := by
  obtain ⟨s, m', started, -⟩ := exists_of_startsWith (c := { component := "m", recorderName := some "cov" })
    (m := Repeated.machine) (p := fun _ _ => true) (by decide +kernel)
  have registered : Repeated.machine.registry.get? "m/index.js" = some Repeated.factory := rfl
  obtain ⟨f', found, -, -, -, -, gone, keeps⟩ :=
    patched_parameters started registered (by decide)
  refine ⟨s, m', f', started, found, ?_, fun exports require module => ⟨gone "_" (by decide) .., rfl⟩⟩
  exact (keeps "module" (by decide)).2 ⟨2, rfl, rfl⟩

/-- A module that calls its first parameter `e` can be loaded before a session starts and no longer behind it: its
patched factory does not bind `e`. -/
theorem renamed_parameter_lost :
    Module.Factory.ofFunctionText Renamed.factory.text = .ok Renamed.factory ∧
    OneModule.succeeds (·.loaded.contains "m/index.js")
      (Request.run (Evaluator.ofFuel (Recorder.host NestedEmpty.host) 30) (.require none "m") Renamed.machine) = true ∧
    ∃ s m', start { component := "m", recorderName := some "cov" } "" Renamed.machine = .ok s m' ∧
      Renamed.failsUnbound "e" (Request.run (Evaluator.ofFuel (Recorder.host NestedEmpty.host) 30) (.require none "m")
        m') = true := by
  refine ⟨by decide +kernel, by decide +kernel, exists_of_startsWith ?_⟩
  decide +kernel

end Session

end ScriptCoverage
