import ScriptCoverage.Proofs.Machine.Simulation

/-!
Properties and names in runs side by side: if calls end in the same way, so do all operations of
`ScriptCoverage.Machine.Access`.
-/

namespace ScriptCoverage.Machine.Simulation

variable {σ σ' : Type} {T : Simulation σ σ'}

/-- Whether all calls end in the same way. -/
def SameCalls (T : Simulation σ σ') (call : Caller σ) (call' : Caller σ') : Prop :=
  ∀ f this args, T.Same (call f this args) (call' f this args)

section Properties

variable {call : Caller σ} {call' : Caller σ'} (hc : T.SameCalls call call')

include hc

/-! ### Reading properties -/

theorem Same.readProperty (receiver : Value) (p : Option Property) :
    T.Same (Run.readProperty call receiver p) (Run.readProperty call' receiver p) := by
  match p with
  | none | some (.accessor none _) => exact .pure _
  | some (.data v) => exact .pure v
  | some (.accessor (some get) _) => exact hc get receiver []

theorem Same.readInherited (receiver : Value) (proto : ObjectRef) (key : String) :
    T.Same (Run.readInherited call receiver proto key) (Run.readInherited call' receiver proto key) :=
  Same.bind (.see fun h => T.lookup?_heap h proto key) fun p => Same.readProperty hc receiver p

theorem Same.readFunction (r : FunctionRef) (key : String) :
    T.Same (Run.readFunction call r key) (Run.readFunction call' r key) := by
  refine Follows.bind (V := fun f f' => f' = T.function f) (.see fun h => T.function_heap h r) fun f f' hf => ?_
  subst hf
  have properties : (T.function f).properties = f.properties := rfl
  rw [properties]
  cases f.properties.property? key with
  | some p => exact Same.readProperty hc _ _
  | none =>
    dsimp only
    have own : (T.function f).kind.hasOwnPrototype = f.kind.hasOwnPrototype := T.hasOwnPrototype_kind f.kind
    rw [own]
    split
    · exact .pure rfl
    split
    · exact Same.bind (.see fun h => T.arity_heap h r) fun n => .pure rfl
    split
    · exact Same.emptyObject.bind fun proto => Same.bind (.modifyProperties r _) fun _ => .pure rfl
    · exact Same.readInherited hc _ _ key

theorem Same.readString (s key : String) : T.Same (Run.readString call s key) (Run.readString call' s key) := by
  unfold Run.readString
  split
  · exact .pure _
  · cases positionOf? key with
    | some i => exact .pure _
    | none => exact Same.readInherited hc _ _ key

theorem Same.readArray (r : ArrayRef) (key : String) :
    T.Same (Run.readArray call r key) (Run.readArray call' r key) := by
  refine Same.bind (.see fun h => T.array_heap h r) fun items => ?_
  split
  · exact .pure rfl
  · cases positionOf? key with
    | some i => exact .pure rfl
    | none => exact Same.readInherited hc _ _ key

theorem Same.readRegex (r : RegexRef) (key : String) :
    T.Same (Run.readRegex call r key) (Run.readRegex call' r key) := by
  refine Same.bind (.see fun h => T.regex_heap h r) fun x => ?_
  cases Run.regexProperty? x key with
  | some v => exact .pure rfl
  | none => exact Same.readInherited hc _ _ key

theorem Same.getProperty (v : Value) (key : String) :
    T.Same (Run.getProperty call v key) (Run.getProperty call' v key) := by
  cases v with
  | undefined | null => exact Follows.refuse _
  | object r => exact .readInherited hc _ r key
  | function r => exact .readFunction hc r key
  | array r => exact .readArray hc r key
  | string s => exact .readString hc s key
  | regex r => exact .readRegex hc r key
  | number x => exact Same.readInherited hc _ _ key
  | bool b => exact Same.readInherited hc _ _ key

/-! ### Writing properties -/

theorem Same.writeAccessor (receiver new : Value) (set : Option Value) :
    T.Same (Run.writeAccessor call receiver new set) (Run.writeAccessor call' receiver new set) := by
  cases set with
  | none => exact .pure _
  | some set => exact Same.bind (hc set receiver [new]) fun _ => .pure rfl

theorem Same.writeObject (r : ObjectRef) (key : String) (new : Value) :
    T.Same (Run.writeObject call r key new) (Run.writeObject call' r key new) := by
  refine Same.bind (.see fun h => T.lookup?_heap h r key) fun p => ?_
  match p with
  | none | some (.data _) => exact Same.modifyObject r _
  | some (.accessor _ set) => exact Same.writeAccessor hc _ new set

theorem Same.writeFunction (r : FunctionRef) (key : String) (new : Value) :
    T.Same (Run.writeFunction call r key new) (Run.writeFunction call' r key new) := by
  refine Follows.bind (V := fun f f' => f' = T.function f) (.see fun h => T.function_heap h r) fun f f' hf => ?_
  subst hf
  have properties : (T.function f).properties = f.properties := rfl
  rw [properties]
  match f.properties.property? key with
  | some (.accessor _ set) => exact Same.writeAccessor hc _ new set
  | none | some (.data _) =>
    dsimp only
    split
    · exact Same.modifyProperties r _
    · exact Same.modifyProperties r _

omit hc in
theorem Same.writeArray (r : ArrayRef) (key : String) (new : Value) :
    T.Same (Run.writeArray r key new) (Run.writeArray r key new) := by
  unfold Run.writeArray
  cases positionOf? key with
  | some i => exact Same.modifyArray r _
  | none =>
    dsimp only
    split
    · exact Same.bind (.see fun h => T.uint32_heap h new) fun n => Same.modifyArray r _
    · exact .pure _

omit hc in
theorem Same.writeRegex (r : RegexRef) (key : String) (new : Value) :
    T.Same (Run.writeRegex r key new) (Run.writeRegex r key new) := by
  unfold Run.writeRegex
  split
  · exact Same.bind (.see fun h => T.number_heap h new) fun x => Same.setLastIndex r _
  · exact .pure _

theorem Same.setProperty (v : Value) (key : String) (new : Value) :
    T.Same (Run.setProperty call v key new) (Run.setProperty call' v key new) := by
  cases v with
  | undefined | null => exact Follows.refuse _
  | object r => exact .writeObject hc r key new
  | function r => exact .writeFunction hc r key new
  | array r => exact .writeArray r key new
  | regex r => exact .writeRegex r key new
  | bool b | number x | string s => exact .pure _

omit hc in
theorem Same.deleteProperty (v : Value) (key : String) :
    T.Same (Run.deleteProperty v key) (Run.deleteProperty v key) := by
  cases v with
  | object r => exact .modifyObject r _
  | function r => exact .modifyProperties r _
  | array r =>
    unfold Run.deleteProperty
    cases positionOf? key with
    | some i => exact .modifyArray r _
    | none => exact .pure _
  | _ => exact .pure _

/-! ### Names -/

theorem Same.getName (scope : Scope) (name : String) :
    T.Same (Run.getName call scope name) (Run.getName call' scope name) := by
  refine Follows.get_bind fun m m' hm => ?_
  rw [hm.resolve?_eq]
  match m.resolve? scope name with
  | some (.binding owner) =>
    refine .ok ?_ hm
    rw [hm.binding?_eq]
  | some (.property v) => exact Same.getProperty hc v name m m' hm
  | none => exact .failed _ hm

/-- A name that may be bound may be assigned. -/
theorem Same.setName {name : String} (hn : T.Avoids name) (scope : Scope) (new : Value) :
    T.Same (Run.setName call scope name new) (Run.setName call' scope name new) := by
  refine Follows.get_bind fun m m' hm => ?_
  rw [hm.resolve?_eq]
  match m.resolve? scope name with
  | some (.binding owner) => exact .ok rfl (hm.bind hn _ new)
  | some (.property v) => exact Same.setProperty hc v name new m m' hm
  | none => exact .ok rfl (hm.bind hn _ new)

end Properties

/-! ### Declarations -/

theorem Same.declare {name : String} (hn : T.Avoids name) (scope : Scope) (v : Value) :
    T.Same (Run.declare scope name v) (Run.declare scope name v) :=
  .modified fun _ _ hm => hm.bind hn _ v

theorem Same.declareVariable {name : String} (hn : T.Avoids name) (scope : Scope) :
    T.Same (modify (·.declareVariable scope name) : Run σ Unit) (modify (·.declareVariable scope name)) := by
  refine Same.modified fun m m' hm => ?_
  simp only [Machine.declareVariable, hm.variableFrame_eq, hm.isBound_eq]
  split
  · exact hm
  · exact hm.bind hn _ _

/-- A closure has probes in the second run if its scope asks for them. -/
theorem Same.closure {scope : Scope} (hg : T.Grounded scope) {decl : Program.Func}
    (hd : decl.BindsOnly T.Avoids (T.ranges scope)) :
    T.Same (Run.closure scope decl) (Run.closure scope (decl.mapBodies (T.bodies scope))) := by
  unfold Run.closure
  rw [Program.Func.name_mapBodies]
  exact Same.newFunction (f := { name := decl.name.getD "", kind := .script decl scope }) ⟨hg, hd⟩

theorem Same.hoist {scope : Scope} (hg : T.Grounded scope) {ds : List Program.Declared}
    (hd : ∀ d ∈ ds, d.BindsOnly T.Avoids (T.ranges scope)) :
    T.Same (Run.hoist scope ds) (Run.hoist scope (ds.map (·.mapBodies (T.bodies scope)))) := by
  induction ds with
  | nil => exact .pure _
  | cons d ds ih =>
    have rest := ih fun e he => hd e (List.mem_cons_of_mem d he)
    have now := hd d List.mem_cons_self
    cases d with
    | «variable» name => exact Same.bind (Same.declareVariable now scope) fun _ => rest
    | function name decl =>
      refine Same.bind (.closure hg now.2) fun f => ?_
      exact Same.bind (.declare now.1 scope f) fun _ => rest

/-! ### Frames -/

/-- Whether a scope lies inside another one and has probes if that one has. -/
structure Inner (T : Simulation σ σ') (outer scope : Scope) : Prop where
  home : T.isHome scope = T.isHome outer
  ground : globalFrame ∈ outer → globalFrame ∈ scope

theorem Inner.refl (scope : Scope) : T.Inner scope scope := ⟨rfl, id⟩

theorem Inner.grounded {outer scope : Scope} (h : T.Inner outer scope) (hg : T.Grounded outer) :
    T.Grounded scope :=
  fun home => h.ground (hg (h.home ▸ home))

theorem Inner.bodies_eq {outer scope : Scope} (h : T.Inner outer scope) : T.bodies scope = T.bodies outer := by
  rw [Weave.bodies, Weave.bodies, h.home]

theorem Inner.ranges_eq {outer scope : Scope} (h : T.Inner outer scope) : T.ranges scope = T.ranges outer := by
  funext s
  rw [Weave.ranges, Weave.ranges, h.home]

/-- No frame that is opened during a run is the one around the code with probes. -/
theorem Follows.openFrame (kind : FrameKind) {bindings : Table Value}
    (hb : bindings.contains T.probe.recorder.name = false) (scope : Scope) :
    T.Follows (fun a b => a = b ∧ T.Inner scope a) (Run.openFrame kind bindings scope)
      (Run.openFrame kind bindings scope) := by
  intro m m' hm
  refine .ok ⟨?_, ?_, List.mem_cons_of_mem _⟩ (hm.openFrame kind hb scope)
  · exact congrArg (fun frames => (⟨Array.size frames⟩ : FrameRef) :: scope) hm.frames.symm
  · have other : ∀ r ∈ T.home, r ≠ ⟨m.frames.size⟩ := fun r hr he => by
      have older := (hm.sound.home r hr).2
      rw [he] at older
      exact Nat.lt_irrefl _ older
    cases h : T.home with
    | none => simp [Weave.isHome, h]
    | some r =>
      simp [Weave.isHome, h, other r h]

end ScriptCoverage.Machine.Simulation
