import ScriptCoverage.Machine.Call
import ScriptCoverage.Proofs.Machine.Frames
import ScriptCoverage.Proofs.Machine.Image
import ScriptCoverage.Proofs.Program.Names

/-!
Corresponding machines: one that runs code and one that runs it with probes. `Weave.Sound` is the invariant of
the first machine, above all that the name of the recorder is bound once and never again;
`Weave.Corresponds` is the relation between the two. Main statements: what a run does to a machine in one step
keeps the invariant (`Sound.bind`, `Sound.openFrame`, `Sound.addFunction` and others).
-/

namespace ScriptCoverage.Machine

variable {σ σ' : Type}

/-- The machine with another state of its host. -/
def withHost (m : Machine σ) (h : σ') : Machine σ' := { m with host := h }

namespace Weave

variable (S : Weave)

/-! ### Code -/

/-- Whether a name is another one than that of the recorder. -/
def Avoids (name : String) : Prop := name ≠ S.probe.recorder.name

/-- The ranges that statements of bodies may have in code of a scope. -/
def ranges (scope : Scope) (s : Span) : Prop := S.isHome scope = true → S.fits s

/-- Whether code of a scope can look up the global names if it has probes. -/
def Grounded (scope : Scope) : Prop := S.isHome scope = true → globalFrame ∈ scope

/-- Whether the code of a function does not bind the name of the recorder, and can look it up if it has to. -/
def KindSound : FunctionKind → Prop
  | .script decl scope => S.Grounded scope ∧ decl.BindsOnly S.Avoids (S.ranges scope)
  | _ => True

/-- Whether a factory does not bind the name of the recorder. -/
def FactorySound (f : Module.Factory) : Prop :=
  (∀ name ∈ f.params, S.Avoids name) ∧
    ∀ program, f.compile = .ok program → Program.Stmt.BodyBindsOnly S.Avoids (fun _ => True) program.body

/-! ### Machines -/

/-- The invariant of a run: the name of the recorder is bound in the global frame, to the recorder, and in no
other one, and no code binds it. -/
structure Sound (m : Machine σ) : Prop where
  home : ∀ r ∈ S.home, r ≠ globalFrame ∧ r.index < m.frames.size
  arguments : S.Avoids "arguments"
  ground : ∀ v, (m.frame globalFrame).kind ≠ .object v
  bound : ∃ (r : FunctionRef) (f : Function), m.binding? globalFrame S.probe.recorder.name = some (.function r) ∧
    m.heap.functions[r.index]? = some f ∧ f.kind = .native (.host (.recorder S.session))
  elsewhere : ∀ r, r ≠ globalFrame → m.isBound r S.probe.recorder.name = false
  functions : ∀ (i : Nat) (f : Function), m.heap.functions[i]? = some f → S.KindSound f.kind
  registry : ∀ key f, m.registry.get? key = some f → S.FactorySound f

variable {S} {m : Machine σ}

theorem Sound.frames_pos (h : S.Sound m) : 0 < m.frames.size := by
  obtain ⟨r, f, hr, -⟩ := h.bound
  refine Nat.pos_of_ne_zero fun hn => ?_
  have none : m.frames[globalFrame.index]? = none := Array.getElem?_eq_none (by omega)
  rw [binding?, frame, none] at hr
  cases hr

/-- The code that a function value stands for; a place without a function counts as one that does nothing. -/
theorem Sound.function (h : S.Sound m) (r : FunctionRef) : S.KindSound (m.heap.function r).kind := by
  rw [Heap.function]
  cases hr : m.heap.functions[r.index]? with
  | some f => exact h.functions r.index f hr
  | none =>
    exact ⟨fun home => absurd home (Bool.eq_false_iff.1 S.isHome_nil), fun _ h => absurd h (Option.not_mem_none _),
      fun _ h => absurd h List.not_mem_nil, trivial⟩

theorem Sound.isHome_globalScope (h : S.Sound m) : S.isHome globalScope = false := by
  cases hs : S.home with
  | none => simp [isHome, hs]
  | some r => simp [isHome, hs, globalScope, (h.home r hs).1]

theorem Sound.withHost (h : S.Sound m) (s : σ') : S.Sound (m.withHost s) := { h with }

/-- What does not touch the frames and gives no function new code keeps a machine sound. -/
theorem Sound.of_heap (h : S.Sound m) {heap : Heap}
    (old : ∀ (i : Nat) f, m.heap.functions[i]? = some f → ∃ f', heap.functions[i]? = some f' ∧ f'.kind = f.kind)
    (new : ∀ (i : Nat) f', heap.functions[i]? = some f' → S.KindSound f'.kind) : S.Sound { m with heap } where
  home := h.home
  arguments := h.arguments
  ground := h.ground
  bound := by
    obtain ⟨r, f, hr, hf, hk⟩ := h.bound
    obtain ⟨f', hf', hk'⟩ := old _ f hf
    exact ⟨r, f', hr, hf', hk'.trans hk⟩
  elsewhere := h.elsewhere
  functions := new
  registry := h.registry

theorem Sound.of_functions_eq (h : S.Sound m) {heap : Heap} (eq : heap.functions = m.heap.functions) :
    S.Sound { m with heap } :=
  h.of_heap (fun i f hf => ⟨f, by rw [eq]; exact hf, rfl⟩) fun i f hf => h.functions i f (by rw [← eq]; exact hf)

theorem Sound.modifyProperties (h : S.Sound m) (r : FunctionRef) (f : Object → Object) :
    S.Sound { m with heap := m.heap.modifyProperties r f } := by
  have eq (i : Nat) : (m.heap.modifyProperties r f).functions[i]? =
      (m.heap.functions[i]?).map fun g => if r.index = i then { g with properties := f g.properties } else g := by
    rw [Heap.modifyProperties, Array.getElem?_modify]
    split
    · rfl
    · cases m.heap.functions[i]? <;> rfl
  refine h.of_heap (fun i g hg => ⟨_, by rw [eq, hg]; rfl, by dsimp only; split <;> rfl⟩) fun i g' hg => ?_
  rw [eq] at hg
  obtain ⟨g, hg', rfl⟩ := Option.map_eq_some_iff.1 hg
  have sound := h.functions i g hg'
  split
  · exact sound
  · exact sound

theorem Sound.addFunction (h : S.Sound m) {f : Function} (hf : S.KindSound f.kind) :
    S.Sound { m with heap := (m.heap.addFunction f).2 } := by
  refine h.of_heap (fun i g hg => ⟨g, ?_, rfl⟩) fun i g hg => ?_
  · have hi : i < m.heap.functions.size := (Array.getElem?_eq_some_iff.1 hg).1
    rw [Heap.addFunction, Array.getElem?_push, if_neg (by omega)]
    exact hg
  · rw [Heap.addFunction, Array.getElem?_push] at hg
    split at hg
    · obtain rfl : f = g := Option.some.inj hg
      exact hf
    · exact h.functions i g hg

/-! ### Frames -/

theorem contains_put {t : Table Value} (h : t.contains S.probe.recorder.name = false) {name : String}
    (hn : S.Avoids name) (v : Value) : (t.put name v).contains S.probe.recorder.name = false := by
  rw [Table.contains, Table.get?_put, if_neg hn]
  exact h

/-- A name other than that of the recorder may be bound in any frame. -/
theorem Sound.bind (h : S.Sound m) {name : String} (hn : S.Avoids name) (r : FrameRef) (v : Value) :
    S.Sound (m.bind r name v) where
  home s hs := by
    rw [Machine.bind, modifyBindings, Array.size_modify]
    exact h.home s hs
  arguments := h.arguments
  ground v' := by
    rw [Machine.bind, kind_modifyBindings]
    exact h.ground v'
  bound := by
    obtain ⟨r', f, hr, hf, hk⟩ := h.bound
    exact ⟨r', f, (binding?_bind_elsewhere m (.inr hn.symm) v).trans hr, hf, hk⟩
  elsewhere s hs := by
    have same := binding?_bind_elsewhere m (r := r) (s := s) (.inr hn.symm) v
    rw [isBound, Table.contains]
    exact (congrArg Option.isSome same).trans (h.elsewhere s hs)
  functions := h.functions
  registry := h.registry

/-- A frame whose bindings leave the name of the recorder alone may be opened. -/
theorem Sound.openFrame (h : S.Sound m) (kind : FrameKind) {bindings : Table Value}
    (hb : bindings.contains S.probe.recorder.name = false) (scope : Scope) :
    S.Sound (m.openFrame kind bindings scope).2 := by
  have ground : (m.openFrame kind bindings scope).2.frame globalFrame = m.frame globalFrame := by
    rw [frame_openFrame, if_neg]
    exact Nat.ne_of_lt h.frames_pos
  refine ⟨fun s hs => ?_, h.arguments, fun v => ?_, ?_, fun s hs => ?_, h.functions, h.registry⟩
  · obtain ⟨other, older⟩ := h.home s hs
    refine ⟨other, ?_⟩
    rw [Machine.openFrame, Array.size_push]
    omega
  · rw [ground]
    exact h.ground v
  · obtain ⟨r, f, hr, hf, hk⟩ := h.bound
    refine ⟨r, f, ?_, hf, hk⟩
    rw [binding?, ground]
    exact hr
  · rw [isBound, frame_openFrame]
    split
    · exact hb
    · exact h.elsewhere s hs

/-! ### Two machines -/

/-- Whether the second machine is as the first one, up to probes in the code of functions and to what its host
keeps. -/
structure Corresponds (S : Weave) (agree : σ → σ' → Prop) (m : Machine σ) (m' : Machine σ') : Prop where
  heap : m'.heap = S.heap m.heap
  frames : m'.frames = m.frames
  registry : m'.registry = m.registry
  loaded : m'.loaded = m.loaded
  depth : m'.depth = m.depth
  console : m'.console = m.console
  host : agree m.host m'.host

section Looking

variable {agree : σ → σ' → Prop} {m' : Machine σ'} (hm : S.Corresponds agree m m')

include hm

theorem Corresponds.frame_eq (r : FrameRef) : m'.frame r = m.frame r := by
  rw [frame, frame, hm.frames]

theorem Corresponds.binding?_eq (r : FrameRef) (name : String) : m'.binding? r name = m.binding? r name := by
  rw [binding?, binding?, hm.frame_eq]

theorem Corresponds.isBound_eq (r : FrameRef) (name : String) : m'.isBound r name = m.isBound r name := by
  rw [isBound, isBound, hm.frame_eq]

theorem Corresponds.resolve?_eq (scope : Scope) (name : String) : m'.resolve? scope name = m.resolve? scope name := by
  rw [resolve?, resolve?]
  induction scope with
  | nil => rfl
  | cons r outer ih =>
    simp only [resolveWith?, hm.frame_eq, hm.isBound_eq, hm.heap, Weave.hasProperty_heap] at ih ⊢
    rw [ih]

theorem Corresponds.variableFrame_eq (scope : Scope) : m'.variableFrame scope = m.variableFrame scope := by
  rw [variableFrame, variableFrame]
  exact congrArg (fun p => (scope.find? p).getD (rootOf scope)) (funext fun r => by rw [hm.frame_eq])

theorem Corresponds.withHost {ρ ρ' : Type} {agree : ρ → ρ' → Prop} {h : ρ} {h' : ρ'} (ha : agree h h') :
    S.Corresponds agree (m.withHost h) (m'.withHost h') := { hm with host := ha }

theorem Corresponds.receiver_eq (scope : Scope) : m'.receiver scope = m.receiver scope := by
  simp only [receiver, hm.frame_eq]

end Looking

end Weave

end ScriptCoverage.Machine
