import ScriptCoverage.Proofs.Machine.Correspondence

/-!
Runs that go on side by side. `Simulation.Follows V x y` says that `x` and `y`, started on corresponding
machines, end in the same way, with results that `V` relates and on corresponding machines again. One of the
two runs, the one in the lead, may run out of fuel where the other does not; and where the first is stopped,
nothing is said. Main statements: `Follows.bind` and the rules for what a single step does to a machine, from
which all constructs of the language are put together.
-/

namespace ScriptCoverage.Machine

/-- The run that may run out of fuel where the other one does not. -/
inductive Lead
  | first | second

/-- Whether fuel is such that the run in the lead has no more than the other one. -/
def Lead.Allots (n n' : Nat) : Lead → Prop
  | first => n ≤ n'
  | second => n' ≤ n

/-- Two runs side by side: where the second has probes, how the states of the two hosts belong together, and
which run is in the lead. -/
structure Simulation (σ σ' : Type) extends Weave where
  agree : σ → σ' → Prop
  lead : Lead

namespace Simulation

variable {σ σ' α β γ δ : Type} (T : Simulation σ σ')

/-- Whether the machines correspond and the first one is sound. -/
structure Related (m : Machine σ) (m' : Machine σ') : Prop extends T.Corresponds T.agree m m' where
  sound : T.Sound m

/-- Whether two runs ended in the same way. -/
inductive Matches (V : α → β → Prop) :
    EStateM.Result Interrupt (Machine σ) α → EStateM.Result Interrupt (Machine σ') β → Prop
  | ok {a : α} {b : β} {m : Machine σ} {m' : Machine σ'} (h : V a b) (hm : T.Related m m') :
    Matches V (.ok a m) (.ok b m')
  | failed (e : RuntimeError) {m : Machine σ} {m' : Machine σ'} (hm : T.Related m m') :
    Matches V (.error (.failed e) m) (.error (.failed e) m')
  | stopped (m : Machine σ) (r : EStateM.Result Interrupt (Machine σ') β) : Matches V (.error .stopped m) r
  | first (h : T.lead = .first) (m : Machine σ) (r : EStateM.Result Interrupt (Machine σ') β) :
    Matches V (.error .outOfFuel m) r
  | second (h : T.lead = .second) (r : EStateM.Result Interrupt (Machine σ) α) (m' : Machine σ') :
    Matches V r (.error .outOfFuel m')

/-- Whether two runs end in the same way when they start on corresponding machines. -/
def Follows (V : α → β → Prop) (x : Run σ α) (y : Run σ' β) : Prop :=
  ∀ m m', T.Related m m' → T.Matches V (x m) (y m')

/-- Whether two runs end in the same way and with the same result. -/
def Same (x : Run σ α) (y : Run σ' α) : Prop := T.Follows Eq x y

variable {T}

/-! ### Putting runs together -/

theorem Matches.mono {V W : α → β → Prop} (h : ∀ a b, V a b → W a b)
    {r : EStateM.Result Interrupt (Machine σ) α} {r' : EStateM.Result Interrupt (Machine σ') β}
    (hr : T.Matches V r r') : T.Matches W r r' := by
  cases hr with
  | ok hv hm => exact .ok (h _ _ hv) hm
  | failed e hm => exact .failed e hm
  | stopped m => exact .stopped m _
  | first h m => exact .first h m _
  | second h _ m => exact .second h _ m

theorem Follows.mono {V W : α → β → Prop} {x : Run σ α} {y : Run σ' β} (hx : T.Follows V x y)
    (h : ∀ a b, V a b → W a b) : T.Follows W x y :=
  fun m m' hm => (hx m m' hm).mono h

theorem Follows.pure {V : α → β → Prop} {a : α} {b : β} (h : V a b) :
    T.Follows V (pure a : Run σ α) (pure b : Run σ' β) :=
  fun _ _ hm => .ok h hm

theorem Same.pure (a : α) : T.Same (pure a : Run σ α) (pure a : Run σ' α) := Follows.pure rfl

theorem Follows.bind {V : α → β → Prop} {W : γ → δ → Prop} {x : Run σ α} {y : Run σ' β} {f : α → Run σ γ}
    {g : β → Run σ' δ} (hx : T.Follows V x y) (hf : ∀ a b, V a b → T.Follows W (f a) (g b)) :
    T.Follows W (x >>= f) (y >>= g) := by
  intro m m' hm
  have first := hx m m' hm
  change T.Matches W (EStateM.bind x f m) (EStateM.bind y g m')
  unfold EStateM.bind
  generalize x m = r at first
  generalize y m' = r' at first
  cases first with
  | ok hv hm => exact hf _ _ hv _ _ hm
  | failed e hm => exact .failed e hm
  | stopped m r => exact .stopped m _
  | first h m r => exact .first h m _
  | second h r m => exact .second h _ m

/-- Two runs with the same results may go on with them. -/
theorem Same.bind {W : γ → δ → Prop} {x : Run σ α} {y : Run σ' α} {f : α → Run σ γ} {g : α → Run σ' δ}
    (hx : T.Same x y) (hf : ∀ a, T.Follows W (f a) (g a)) : T.Follows W (x >>= f) (y >>= g) :=
  Follows.bind hx fun a _ hab => hab ▸ hf a

/-! ### Ends -/

theorem Follows.fail {V : α → β → Prop} (e : RuntimeError) : T.Follows V (Run.fail e) (Run.fail e) :=
  fun _ _ hm => .failed e hm

theorem Follows.refuse {V : α → β → Prop} (f : TypeFault) : T.Follows V (Run.refuse f) (Run.refuse f) :=
  .fail _

theorem Follows.outOfFuel_first {V : α → β → Prop} (h : T.lead = .first) (y : Run σ' β) :
    T.Follows V (throw .outOfFuel) y :=
  fun _ _ _ => .first h _ _

theorem Follows.outOfFuel_second {V : α → β → Prop} (h : T.lead = .second) (x : Run σ α) :
    T.Follows V x (throw .outOfFuel) :=
  fun _ _ _ => .second h _ _

theorem Same.attempt {x : Run σ α} {y : Run σ' α} (h : T.Same x y) : T.Same (Run.attempt x) (Run.attempt y) := by
  intro m m' hm
  have first := h m m' hm
  unfold Run.attempt
  generalize x m = r at first
  generalize y m' = r' at first
  cases first with
  | ok hv hm => exact .ok (congrArg _ hv) hm
  | failed e hm => exact .ok rfl hm
  | stopped m r => exact .stopped m _
  | first h m r => exact .first h m _
  | second h r m => exact .second h _ m

theorem Same.resume (e : Except RuntimeError α) : T.Same (Run.resume e : Run σ α) (Run.resume e : Run σ' α) := by
  cases e with
  | ok a => exact .pure a
  | error e => exact .fail e

/-! ### Looking at a machine -/

/-- What is read from the machine may differ in the two runs only as the machines do. -/
theorem Follows.get_bind {V : α → β → Prop} {f : Machine σ → Run σ α} {g : Machine σ' → Run σ' β}
    (h : ∀ m m', T.Related m m' → T.Matches V (f m m) (g m' m')) : T.Follows V (get >>= f) (get >>= g) :=
  fun m m' hm => h m m' hm

theorem Follows.see {V : α → β → Prop} {f : Heap → α} {g : Heap → β} (h : ∀ heap, V (f heap) (g (T.heap heap))) :
    T.Follows V (Run.see f) (Run.see g) := by
  intro m m' hm
  refine .ok ?_ hm
  rw [hm.heap]
  exact h _

/-- What a heap and its image have in common. -/
theorem Same.see {f g : Heap → α} (h : ∀ heap, g (T.heap heap) = f heap) : T.Same (Run.see f) (Run.see g) :=
  Follows.see fun heap => (h heap).symm

/-! ### Changing a machine -/

theorem Same.modified {f : Machine σ → Machine σ} {g : Machine σ' → Machine σ'}
    (h : ∀ m m', T.Related m m' → T.Related (f m) (g m')) :
    T.Same (modify f : Run σ Unit) (modify g : Run σ' Unit) :=
  fun m m' hm => .ok rfl (h m m' hm)

section Changing

variable {m : Machine σ} {m' : Machine σ'} (hm : T.Related m m')

include hm

theorem Related.with_heap {heap : Heap} {heap' : Heap} (sound : T.Sound { m with heap }) (h : heap' = T.heap heap) :
    T.Related { m with heap } { m' with heap := heap' } :=
  { hm with heap := h, sound }

theorem Related.with_depth (n : Nat) : T.Related { m with depth := n } { m' with depth := n } where
  toCorresponds := { hm.toCorresponds with depth := rfl }
  sound := { hm.sound with }

/-- The hosts of machines may get other states that belong together, in the same way or in another one. -/
theorem Related.withHost {ρ ρ' : Type} {agree : ρ → ρ' → Prop} {lead : Lead} {h : ρ} {h' : ρ'} (ha : agree h h') :
    Simulation.Related ⟨T.toWeave, agree, lead⟩ (m.withHost h) (m'.withHost h') where
  toCorresponds := hm.toCorresponds.withHost ha
  sound := hm.sound.withHost h

theorem Related.bind {name : String} (hn : T.Avoids name) (r : FrameRef) (v : Value) :
    T.Related (m.bind r name v) (m'.bind r name v) where
  toCorresponds := { hm.toCorresponds with frames := by rw [Machine.bind, modifyBindings, hm.frames]; rfl }
  sound := hm.sound.bind hn r v

theorem Related.openFrame (kind : FrameKind) {bindings : Table Value}
    (hb : bindings.contains T.probe.recorder.name = false) (scope : Scope) :
    T.Related (m.openFrame kind bindings scope).2 (m'.openFrame kind bindings scope).2 where
  toCorresponds := { hm.toCorresponds with frames := by rw [Machine.openFrame, hm.frames]; rfl }
  sound := hm.sound.openFrame kind hb scope

end Changing

theorem Same.deeper {x : Run σ α} {y : Run σ' α} (h : T.Same x y) : T.Same (Run.deeper x) (Run.deeper y) := by
  intro m m' hm
  have first := h _ _ (hm.with_depth (m.depth + 1))
  unfold Run.deeper
  rw [hm.depth]
  dsimp only
  generalize x { m with depth := m.depth + 1 } = r at first
  generalize y { m' with depth := m.depth + 1 } = r' at first
  cases first with
  | ok hv hm => exact .ok hv (hm.with_depth _)
  | failed e hm => exact .failed e (hm.with_depth _)
  | stopped m => exact .stopped _ _
  | first h m => exact .first h _ _
  | second h r m => exact .second h _ _

theorem Same.modifyObject (r : ObjectRef) (f : Object → Object) :
    T.Same (Run.change (·.modifyObject r f)) (Run.change (·.modifyObject r f)) :=
  .modified fun _ _ hm => hm.with_heap (hm.sound.of_functions_eq rfl) (by rw [hm.heap]; rfl)

theorem Same.modifyArray (r : ArrayRef) (f : Array Value → Array Value) :
    T.Same (Run.change (·.modifyArray r f)) (Run.change (·.modifyArray r f)) :=
  .modified fun _ _ hm => hm.with_heap (hm.sound.of_functions_eq rfl) (by rw [hm.heap]; rfl)

theorem Same.setLastIndex (r : RegexRef) (n : Nat) :
    T.Same (Run.change (·.setLastIndex r n)) (Run.change (·.setLastIndex r n)) :=
  .modified fun _ _ hm => hm.with_heap (hm.sound.of_functions_eq rfl) (by rw [hm.heap]; rfl)

theorem Same.modifyProperties (r : FunctionRef) (f : Object → Object) :
    T.Same (Run.change (·.modifyProperties r f)) (Run.change (·.modifyProperties r f)) :=
  .modified fun _ _ hm => hm.with_heap (hm.sound.modifyProperties r f) (by rw [hm.heap]; exact T.modifyProperties_heap _ r f)

/-- What is added to the heap gets the same place in both runs. -/
theorem Same.add {f g : Heap → γ × Heap}
    (h : ∀ (m : Machine σ) heap', T.Sound m → heap' = T.heap m.heap →
      (g heap').1 = (f m.heap).1 ∧ (g heap').2 = T.heap (f m.heap).2 ∧ T.Sound { m with heap := (f m.heap).2 }) :
    T.Same (Run.add f : Run σ γ) (Run.add g) := by
  intro m m' hm
  obtain ⟨hr, hh, hs⟩ := h m m'.heap hm.sound hm.heap
  exact .ok hr.symm (hm.with_heap hs hh)

theorem Same.newObject (o : Object) : T.Same (Run.newObject o : Run σ Value) (Run.newObject o) :=
  Same.bind (Same.add fun _ _ hs hh => by subst hh; exact ⟨rfl, rfl, hs.of_functions_eq rfl⟩) fun _ => .pure rfl

theorem Same.emptyObject : T.Same (Run.emptyObject : Run σ Value) Run.emptyObject := .newObject _

theorem Same.newArray (items : List Value) : T.Same (Run.newArray items : Run σ Value) (Run.newArray items) :=
  Same.bind (Same.add fun _ _ hs hh => by subst hh; exact ⟨rfl, rfl, hs.of_functions_eq rfl⟩) fun _ => .pure rfl

theorem Same.newRegex (source flags : String) :
    T.Same (Run.newRegex source flags : Run σ Value) (Run.newRegex source flags) := by
  unfold Run.newRegex
  cases Pattern.Regex.compile source flags with
  | ok x =>
    exact Same.bind (Same.add fun _ _ hs hh => by subst hh; exact ⟨rfl, rfl, hs.of_functions_eq rfl⟩) fun _ => .pure rfl
  | error message => exact .fail _

/-- A new function has probes in the second run if its code gets them. -/
theorem Same.newFunction {f : Function} (hf : T.KindSound f.kind) :
    T.Same (Run.newFunction f : Run σ Value) (Run.newFunction (T.function f)) :=
  Same.bind (Same.add fun _ _ hs hh => by
    subst hh
    rw [Weave.addFunction_heap]
    exact ⟨rfl, rfl, hs.addFunction hf⟩) fun _ => .pure rfl

theorem Same.newError (kind : ErrorKind) (message : String) :
    T.Same (Run.newError kind message : Run σ Value) (Run.newError kind message) := .newObject _

theorem Follows.raise {V : α → β → Prop} (kind : ErrorKind) (message : String) :
    T.Follows V (Run.raise kind message) (Run.raise kind message) :=
  (Same.newError kind message).bind fun _ => .fail _

theorem Same.caughtValue (e : RuntimeError) : T.Same (Run.caughtValue e : Run σ Value) (Run.caughtValue e) := by
  unfold Run.caughtValue
  split
  · exact .pure _
  · exact .newError _ _
  · exact .pure _

end Simulation

end ScriptCoverage.Machine
