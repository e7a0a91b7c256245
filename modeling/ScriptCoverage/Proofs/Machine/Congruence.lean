import ScriptCoverage.Machine.Evaluate
import ScriptCoverage.Proofs.Machine.Frames

/-!
Relations between runs that go along with how runs are put together. A `Congruence` relates runs on machines
whose hosts have states of two kinds, and is given by rules for the ways in which the language makes one run of
others. What follows from the rules alone is stated here: the operations on properties and names, and the
functions that are there from the start, are related where the calls are that they make.
-/

namespace ScriptCoverage.Machine

variable {σ τ α β : Type}

/-- What scripts see of a machine: its heap and its frames. -/
def memory (m : Machine σ) : Machine Unit := { heap := m.heap, frames := m.frames, host := () }

/-- A run that reads and changes heap and frames only. -/
def Run.onMemory (f : Machine Unit → α × Machine Unit) : Run σ α := fun m =>
  let (a, n) := f m.memory
  .ok a { m with heap := n.heap, frames := n.frames }

/-! ### Finding names -/

/-- Finds a name. -/
def Run.find (scope : Scope) (name : String) : Run σ (Option Resolved) := fun m => .ok (m.resolve? scope name) m

theorem Run.getName_eq (call : Caller σ) (scope : Scope) (name : String) :
    Run.getName call scope name = (do
      match ← Run.find scope name with
      | some (.binding owner) => return ((← get).binding? (owner.head?.getD globalFrame) name).getD .undefined
      | some (.property v) => Run.getProperty call v name
      | none => Run.fail (.unbound name)) := rfl

theorem Run.setName_eq (call : Caller σ) (scope : Scope) (name : String) (new : Value) :
    Run.setName call scope name new = (do
      match ← Run.find scope name with
      | some (.binding owner) => modify (·.declare owner name new)
      | some (.property v) => Run.setProperty call v name new
      | none => modify (·.bind globalFrame name new)) := rfl

/-- Where a name is found depends on heap and frames only. -/
theorem resolve?_memory (m : Machine σ) (scope : Scope) (name : String) :
    m.memory.resolve? scope name = m.resolve? scope name := by
  unfold Machine.resolve?
  induction scope with
  | nil => rfl
  | cons r outer ih =>
    rw [resolveWith?, resolveWith?, ih]
    rfl

/-! ### Frames -/

/-- Whether all frames of a machine are there on another one, of the same kinds, and bind the names that they bound. The
global frame may have lost names. -/
structure FramesGrow (m : Machine σ) (m' : Machine τ) : Prop where
  size : m.frames.size ≤ m'.frames.size
  kind : ∀ r : FrameRef, r.index < m.frames.size → (m'.frame r).kind = (m.frame r).kind
  bound : ∀ r name, r ≠ globalFrame → m.isBound r name → m'.isBound r name

namespace FramesGrow

theorem of_eq {m : Machine σ} {m' : Machine τ} (same : m'.frames = m.frames) : m.FramesGrow m' := by
  have frame (r : FrameRef) : m'.frame r = m.frame r := by rw [Machine.frame, Machine.frame, same]
  refine ⟨Nat.le_of_eq (by rw [same]), fun r _ => by rw [frame], fun r name _ bound => ?_⟩
  rwa [isBound, frame]

theorem refl (m : Machine σ) : m.FramesGrow m := of_eq rfl

theorem trans {ρ : Type} {m₁ : Machine σ} {m₂ : Machine τ} {m₃ : Machine ρ} (first : m₁.FramesGrow m₂)
    (second : m₂.FramesGrow m₃) : m₁.FramesGrow m₃ where
  size := Nat.le_trans first.size second.size
  kind r there := (second.kind r (Nat.lt_of_lt_of_le there first.size)).trans (first.kind r there)
  bound r name other bound := second.bound r name other (first.bound r name other bound)

theorem openFrame (m : Machine σ) (kind : FrameKind) (bindings : Table Value) (scope : Scope) :
    m.FramesGrow (m.openFrame kind bindings scope).2 := by
  have older (r : FrameRef) (there : r.index < m.frames.size) :
      (m.openFrame kind bindings scope).2.frame r = m.frame r := by
    rw [Machine.frame, Machine.frame, Machine.openFrame, Array.getElem?_push_lt there, Array.getElem?_eq_getElem there]
  refine ⟨?_, fun r there => by rw [older r there], fun r name _ bound => ?_⟩
  · change m.frames.size ≤ (m.frames.push _).size
    rw [Array.size_push]
    exact Nat.le_succ _
  · rcases Nat.lt_or_ge r.index m.frames.size with there | missing
    · rwa [isBound, older r there]
    · rw [isBound, Machine.frame, Array.getElem?_eq_none missing] at bound
      cases bound

/-- A change of the names of one frame under which no name is lost. -/
theorem modifyBindings (m : Machine σ) (r : FrameRef) {f : Table Value → Table Value}
    (kept : ∀ t name, t.contains name → (f t).contains name) : m.FramesGrow (m.modifyBindings r f) := by
  refine ⟨Nat.le_of_eq Array.size_modify.symm, fun r' _ => kind_modifyBindings m r r' f, fun r' name _ bound => ?_⟩
  rw [isBound, frame_modifyBindings]
  split
  · exact kept _ _ bound
  · exact bound

theorem bind (m : Machine σ) (r : FrameRef) (name : String) (v : Value) : m.FramesGrow (m.bind r name v) :=
  modifyBindings m r fun t other found => by
    rw [Table.contains, Table.get?_put]
    split
    · rfl
    · exact found

theorem declareVariable (m : Machine σ) (scope : Scope) (name : String) :
    m.FramesGrow (m.declareVariable scope name) := by
  unfold Machine.declareVariable
  dsimp only
  split
  · exact refl m
  · exact bind m _ name _

end FramesGrow

/-- Whether frames grow, and what they bound has its value still. -/
structure FramesKept (m : Machine σ) (m' : Machine τ) : Prop extends m.FramesGrow m' where
  value : ∀ r name v, m.binding? r name = some v → m'.binding? r name = some v

namespace FramesKept

theorem of_eq {m : Machine σ} {m' : Machine τ} (same : m'.frames = m.frames) : m.FramesKept m' where
  toFramesGrow := .of_eq same
  value r name v bound := by
    rwa [binding?, Machine.frame, same]

theorem refl (m : Machine σ) : m.FramesKept m := of_eq rfl

theorem openFrame (m : Machine σ) (kind : FrameKind) (bindings : Table Value) (scope : Scope) :
    m.FramesKept (m.openFrame kind bindings scope).2 where
  toFramesGrow := .openFrame m kind bindings scope
  value r name v bound := by
    have older : r.index ≠ m.frames.size := Nat.ne_of_lt (index_lt_of_binding? bound)
    rwa [binding?, frame_openFrame, if_neg older]

/-- A variable is declared only where its name is not bound. -/
theorem declareVariable (m : Machine σ) (scope : Scope) (name : String) :
    m.FramesKept (m.declareVariable scope name) where
  toFramesGrow := .declareVariable m scope name
  value r other v bound := by
    unfold Machine.declareVariable
    dsimp only
    split
    · exact bound
    · next new =>
      rw [binding?_bind_elsewhere]
      · exact bound
      · refine Decidable.not_and_iff_not_or_not.1 fun ⟨here, same⟩ => new ?_
        rw [← here, ← same, isBound_eq, bound, Option.isSome_some]

end FramesKept

/-- Puts a new frame behind the others. -/
def Run.newFrame (kind : FrameKind) (bindings : Table Value) : Run σ FrameRef :=
  onMemory fun m => (⟨m.frames.size⟩, { m with frames := m.frames.push { kind, bindings } })

theorem Run.openFrame_bind (kind : FrameKind) (bindings : Table Value) (scope : Scope) (f : Scope → Run σ α) :
    Run.openFrame kind bindings scope >>= f = Run.newFrame kind bindings >>= fun r => f (r :: scope) := rfl

/-! ### Congruences -/

/-- A relation between runs that goes along with how runs are put together, for code that runs in some of all scopes. No
construct makes an error of its own that cannot be caught, so nothing is asked of those. -/
structure Congruence (σ τ : Type) where
  Rel {α : Type} : Run σ α → Run τ α → Prop
  /-- The scopes that code runs in. -/
  Inside : Scope → Prop := fun _ => True
  /-- The frames that names may be bound in. -/
  Free : FrameRef → Prop := fun _ => True
  pure {α : Type} (a : α) : Rel (pure a) (pure a)
  bind {α β : Type} {x : Run σ α} {y : Run τ α} {f : α → Run σ β} {g : α → Run τ β} :
    Rel x y → (∀ a, Rel (f a) (g a)) → Rel (x >>= f) (y >>= g)
  fail {α : Type} {e : RuntimeError} : e.isCatchable = true → Rel (Run.fail e : Run σ α) (Run.fail e)
  outOfFuel {α : Type} : Rel (throw .outOfFuel : Run σ α) (throw .outOfFuel)
  onMemory {α : Type} (f : Machine Unit → α × Machine Unit) : (∀ m : Machine Unit, m.FramesKept (f m).2) →
    Rel (Run.onMemory f) (Run.onMemory f)
  bindName (r : FrameRef) (name : String) (v : Value) : Free r →
    Rel (Run.onMemory fun m => ((), m.bind r name v)) (Run.onMemory fun m => ((), m.bind r name v))
  /-- A frame that is opened inside of a scope is another place for code to run in, and for names. -/
  openFrame {α : Type} {scope : Scope} {f : Scope → Run σ α} {g : Scope → Run τ α} (kind : FrameKind)
      (bindings : Table Value) :
    Inside scope → (∀ r, Inside (r :: scope) → Free r → Rel (f (r :: scope)) (g (r :: scope))) →
    Rel (Run.openFrame kind bindings scope >>= f) (Run.openFrame kind bindings scope >>= g)
  log (line : String) : Rel (Run.log line) (Run.log line)
  onRegistry {α : Type} (f : Table Module.Factory → α) :
    Rel (fun m => .ok (f m.registry) m) (fun m => .ok (f m.registry) m)
  level {α : Type} {x : Run σ α} {y : Run τ α} : Rel x y →
    Rel (do if maxDepth ≤ (← get).depth then Run.fail .stackOverflow else Run.deeper x)
      (do if maxDepth ≤ (← get).depth then Run.fail .stackOverflow else Run.deeper y)
  /-- What handles an error that cannot be caught fails with it at once. -/
  attempt {α β : Type} {x : Run σ α} {y : Run τ α} {f : Except RuntimeError α → Run σ β}
      {g : Except RuntimeError α → Run τ β} :
    Rel x y → (∀ a, Rel (f (.ok a)) (g (.ok a))) →
    (∀ e, e.isCatchable = true → Rel (f (.error e)) (g (.error e))) →
    (∀ e, e.isCatchable = false → f (.error e) = Run.fail e ∧ g (.error e) = Run.fail e) →
    Rel (Run.attempt x >>= f) (Run.attempt y >>= g)

/-- Whether a scope is one that code runs in. -/
class Congruence.In (L : Congruence σ τ) (scope : Scope) : Prop where
  inside : L.Inside scope

/-- Whether code runs in all scopes. -/
class Congruence.Everywhere (L : Congruence σ τ) : Prop where
  inside : ∀ scope, L.Inside scope

instance (L : Congruence σ τ) [h : L.Everywhere] (scope : Scope) : L.In scope := ⟨h.inside scope⟩

/-- Whether names may be declared in a scope. -/
class Congruence.Owns (L : Congruence σ τ) (scope : Scope) : Prop where
  free : L.Free (scope.head?.getD globalFrame)

/-- Whether names may be bound in all frames. -/
class Congruence.OwnsAll (L : Congruence σ τ) : Prop where
  free : ∀ r, L.Free r

instance (L : Congruence σ τ) [h : L.OwnsAll] (scope : Scope) : L.Owns scope := ⟨h.free _⟩

namespace Congruence

variable (L : Congruence σ τ)

theorem map {x : Run σ α} {y : Run τ α} (h : L.Rel x y) (f : α → β) : L.Rel (f <$> x) (f <$> y) := by
  rw [map_eq_pure_bind, map_eq_pure_bind]
  exact L.bind h fun a => L.pure (f a)

theorem refuse (f : TypeFault) : L.Rel (Run.refuse f : Run σ α) (Run.refuse f) := L.fail rfl

/-! ### Heap and frames -/

/-- Looking at heap and frames. -/
theorem look (p : Machine Unit → α) : L.Rel (fun m => .ok (p m.memory) m) (fun m => .ok (p m.memory) m) :=
  L.onMemory (fun m => (p m, m)) .refl

theorem see (f : Heap → α) : L.Rel (Run.see f) (Run.see f) := L.look fun m => f m.heap

theorem change (f : Heap → Heap) : L.Rel (Run.change f) (Run.change f) :=
  L.onMemory (fun m => ((), { m with heap := f m.heap })) fun _ => .of_eq rfl

theorem add (f : Heap → α × Heap) : L.Rel (Run.add f) (Run.add f) :=
  L.onMemory (fun m => ((f m.heap).1, { m with heap := (f m.heap).2 })) fun _ => .of_eq rfl

theorem newObject (o : Object) : L.Rel (Run.newObject o) (Run.newObject o) := L.bind (L.add _) fun _ => L.pure _

theorem emptyObject : L.Rel Run.emptyObject Run.emptyObject := L.newObject _

theorem newArray (items : List Value) : L.Rel (Run.newArray items) (Run.newArray items) :=
  L.bind (L.add _) fun _ => L.pure _

theorem newFunction (f : Function) : L.Rel (Run.newFunction f) (Run.newFunction f) :=
  L.bind (L.add _) fun _ => L.pure _

theorem newRegex (source flags : String) : L.Rel (Run.newRegex source flags) (Run.newRegex source flags) := by
  unfold Run.newRegex
  cases Pattern.Regex.compile source flags with
  | ok x => exact L.bind (L.add _) fun _ => L.pure _
  | error message => exact L.fail rfl

theorem newError (kind : ErrorKind) (message : String) :
    L.Rel (Run.newError kind message) (Run.newError kind message) := L.newObject _

theorem raise (kind : ErrorKind) (message : String) :
    L.Rel (Run.raise kind message : Run σ α) (Run.raise kind message) :=
  L.bind (L.newError kind message) fun _ => L.fail rfl

theorem caughtValue (e : RuntimeError) : L.Rel (Run.caughtValue e) (Run.caughtValue e) := by
  unfold Run.caughtValue
  split
  · exact L.pure _
  · exact L.newError _ _
  · exact L.pure _

theorem opened (kind : FrameKind) (bindings : Table Value) {scope : Scope} [h : L.In scope] {f : Scope → Run σ α}
    {g : Scope → Run τ α} (behind : ∀ r, L.In (r :: scope) → L.Owns (r :: scope) → L.Rel (f (r :: scope)) (g (r :: scope))) :
    L.Rel (Run.openFrame kind bindings scope >>= f) (Run.openFrame kind bindings scope >>= g) :=
  L.openFrame kind bindings h.inside fun r inside free => behind r ⟨inside⟩ ⟨free⟩

theorem declare (scope : Scope) [h : L.Owns scope] (name : String) (v : Value) :
    L.Rel (Run.declare scope name v) (Run.declare scope name v) := L.bindName _ name v h.free

theorem declareVariable (scope : Scope) (name : String) :
    L.Rel (modify (·.declareVariable scope name)) (modify (·.declareVariable scope name)) := by
  have same (ρ : Type) : (modify (·.declareVariable scope name) : Run ρ Unit) =
      Run.onMemory fun m => ((), m.declareVariable scope name) := by
    funext m
    change EStateM.Result.ok () (m.declareVariable scope name) = .ok () _
    unfold Machine.declareVariable
    by_cases h : m.isBound (m.variableFrame scope) name
    · have h' : m.memory.isBound (m.memory.variableFrame scope) name = true := h
      rw [if_pos h, if_pos h']
      rfl
    · have h' : ¬ m.memory.isBound (m.memory.variableFrame scope) name = true := h
      rw [if_neg h, if_neg h']
      rfl
  rw [same, same]
  exact L.onMemory _ fun m => .declareVariable m scope name

theorem closure (scope : Scope) (decl : Program.Func) : L.Rel (Run.closure scope decl) (Run.closure scope decl) :=
  L.newFunction _

theorem hoist (scope : Scope) [L.Owns scope] (ds : List Program.Declared) :
    L.Rel (Run.hoist scope ds) (Run.hoist scope ds) := by
  induction ds with
  | nil => exact L.pure _
  | cons d ds ih =>
    cases d with
    | «variable» name => exact L.bind (L.declareVariable scope name) fun _ => ih
    | function name decl => exact L.bind (L.closure scope decl) fun f => L.bind (L.declare scope name f) fun _ => ih

theorem find (scope : Scope) (name : String) : L.Rel (Run.find scope name) (Run.find scope name) := by
  have looked := L.look fun m => m.resolve? scope name
  simp only [resolve?_memory] at looked
  exact looked

/-! ### Properties and names -/

/-- Whether all calls are related. -/
def RelCalls (call : Caller σ) (call' : Caller τ) : Prop := ∀ f this args, L.Rel (call f this args) (call' f this args)

section Properties

variable {call : Caller σ} {call' : Caller τ} (hc : L.RelCalls call call')

include hc

theorem readProperty (receiver : Value) (p : Option Property) :
    L.Rel (Run.readProperty call receiver p) (Run.readProperty call' receiver p) := by
  match p with
  | none | some (.accessor none _) => exact L.pure _
  | some (.data v) => exact L.pure v
  | some (.accessor (some get) _) => exact hc get receiver []

theorem readInherited (receiver : Value) (proto : ObjectRef) (key : String) :
    L.Rel (Run.readInherited call receiver proto key) (Run.readInherited call' receiver proto key) :=
  L.bind (L.see _) fun p => L.readProperty hc receiver p

theorem readFunction (r : FunctionRef) (key : String) :
    L.Rel (Run.readFunction call r key) (Run.readFunction call' r key) := by
  refine L.bind (L.see _) fun f => ?_
  cases f.properties.property? key with
  | some p => exact L.readProperty hc _ _
  | none =>
    dsimp only
    split
    · exact L.pure _
    split
    · exact L.bind (L.see _) fun _ => L.pure _
    split
    · exact L.bind L.emptyObject fun _ => L.bind (L.change _) fun _ => L.pure _
    · exact L.readInherited hc _ _ key

theorem readString (s key : String) : L.Rel (Run.readString call s key) (Run.readString call' s key) := by
  unfold Run.readString
  split
  · exact L.pure _
  · cases positionOf? key with
    | some i => exact L.pure _
    | none => exact L.readInherited hc _ _ key

theorem readArray (r : ArrayRef) (key : String) : L.Rel (Run.readArray call r key) (Run.readArray call' r key) := by
  refine L.bind (L.see _) fun items => ?_
  split
  · exact L.pure _
  · cases positionOf? key with
    | some i => exact L.pure _
    | none => exact L.readInherited hc _ _ key

theorem readRegex (r : RegexRef) (key : String) : L.Rel (Run.readRegex call r key) (Run.readRegex call' r key) := by
  refine L.bind (L.see _) fun x => ?_
  cases Run.regexProperty? x key with
  | some v => exact L.pure _
  | none => exact L.readInherited hc _ _ key

theorem getProperty (v : Value) (key : String) :
    L.Rel (Run.getProperty call v key) (Run.getProperty call' v key) := by
  cases v with
  | undefined | null => exact L.refuse _
  | object r => exact L.readInherited hc _ r key
  | function r => exact L.readFunction hc r key
  | array r => exact L.readArray hc r key
  | string s => exact L.readString hc s key
  | regex r => exact L.readRegex hc r key
  | number x => exact L.readInherited hc _ _ key
  | bool b => exact L.readInherited hc _ _ key

theorem writeAccessor (receiver new : Value) (set : Option Value) :
    L.Rel (Run.writeAccessor call receiver new set) (Run.writeAccessor call' receiver new set) := by
  cases set with
  | none => exact L.pure _
  | some set => exact L.bind (hc set receiver [new]) fun _ => L.pure _

theorem writeObject (r : ObjectRef) (key : String) (new : Value) :
    L.Rel (Run.writeObject call r key new) (Run.writeObject call' r key new) := by
  refine L.bind (L.see _) fun p => ?_
  match p with
  | none | some (.data _) => exact L.change _
  | some (.accessor _ set) => exact L.writeAccessor hc _ new set

theorem writeFunction (r : FunctionRef) (key : String) (new : Value) :
    L.Rel (Run.writeFunction call r key new) (Run.writeFunction call' r key new) := by
  refine L.bind (L.see _) fun f => ?_
  match f.properties.property? key with
  | some (.accessor _ set) => exact L.writeAccessor hc _ new set
  | none | some (.data _) =>
    dsimp only
    split
    · exact L.change _
    · exact L.change _

omit hc in
theorem writeArray (r : ArrayRef) (key : String) (new : Value) :
    L.Rel (Run.writeArray r key new) (Run.writeArray r key new) := by
  unfold Run.writeArray
  cases positionOf? key with
  | some i => exact L.change _
  | none =>
    dsimp only
    split
    · exact L.bind (L.see _) fun _ => L.change _
    · exact L.pure _

omit hc in
theorem writeRegex (r : RegexRef) (key : String) (new : Value) :
    L.Rel (Run.writeRegex r key new) (Run.writeRegex r key new) := by
  unfold Run.writeRegex
  split
  · exact L.bind (L.see _) fun _ => L.change _
  · exact L.pure _

theorem setProperty (v : Value) (key : String) (new : Value) :
    L.Rel (Run.setProperty call v key new) (Run.setProperty call' v key new) := by
  cases v with
  | undefined | null => exact L.refuse _
  | object r => exact L.writeObject hc r key new
  | function r => exact L.writeFunction hc r key new
  | array r => exact L.writeArray r key new
  | regex r => exact L.writeRegex r key new
  | bool b | number x | string s => exact L.pure _

omit hc in
theorem deleteProperty (v : Value) (key : String) :
    L.Rel (Run.deleteProperty v key) (Run.deleteProperty v key) := by
  cases v with
  | object r => exact L.change (·.modifyObject r (·.erase key))
  | function r => exact L.change (·.modifyProperties r (·.erase key))
  | array r =>
    unfold Run.deleteProperty
    cases positionOf? key with
    | some i => exact L.change _
    | none => exact L.pure _
  | _ => exact L.pure _

theorem getName (scope : Scope) (name : String) :
    L.Rel (Run.getName call scope name) (Run.getName call' scope name) := by
  rw [Run.getName_eq, Run.getName_eq]
  refine L.bind (L.find scope name) fun found => ?_
  match found with
  | some (.binding owner) => exact L.look fun m => (m.binding? (owner.head?.getD globalFrame) name).getD .undefined
  | some (.property v) => exact L.getProperty hc v name
  | none => exact L.fail rfl

theorem setName [h : L.OwnsAll] (scope : Scope) (name : String) (new : Value) :
    L.Rel (Run.setName call scope name new) (Run.setName call' scope name new) := by
  rw [Run.setName_eq, Run.setName_eq]
  refine L.bind (L.find scope name) fun found => ?_
  match found with
  | some (.binding owner) => exact L.declare owner name new
  | some (.property v) => exact L.setProperty hc v name new
  | none => exact L.bindName globalFrame name new (h.free _)

end Properties

/-! ### Arrays -/

section Builtins

variable {call : Caller σ} {call' : Caller τ}

theorem callEach (hc : L.RelCalls call call') (callback this : Value) (r : ArrayRef) (i : Nat) (vs : List Value) :
    L.Rel (Run.callEach call callback this r i vs) (Run.callEach call' callback this r i vs) := by
  induction vs generalizing i with
  | nil => exact L.pure _
  | cons v vs ih => exact L.bind (hc callback this _) fun _ => L.bind (ih (i + 1)) fun _ => L.pure _

theorem onArray (hc : L.RelCalls call call') (r : ArrayRef) (args : List Value) (m : ArrayMethod) :
    L.Rel (Run.onArray call r args m) (Run.onArray call' r args m) := by
  cases m with
  | push => exact L.bind (L.change _) fun _ => L.bind (L.see _) fun _ => L.pure _
  | pop | shift => exact L.bind (L.see _) fun _ => L.bind (L.change _) fun _ => L.pure _
  | join | indexOf =>
    unfold Run.onArray
    exact L.see _
  | slice | concat => exact L.bind (L.see _) fun items => L.newArray items
  | forEach => exact L.bind (L.see _) fun items => L.bind (L.callEach hc _ _ r 0 items) fun _ => L.pure _
  | map => exact L.bind (L.see _) fun items => L.bind (L.callEach hc _ _ r 0 items) fun vs => L.newArray vs
  | filter => exact L.bind (L.see _) fun items => L.bind (L.callEach hc _ _ r 0 items) fun _ => L.newArray _

theorem arrayMethod (hc : L.RelCalls call call') (m : ArrayMethod) (this : Value) (args : List Value) :
    L.Rel (Run.arrayMethod call m this args) (Run.arrayMethod call' m this args) := by
  cases this with
  | array r => exact L.onArray hc r args m
  | _ => exact L.refuse _

/-! ### Texts -/

theorem matchesOf (pattern : Value) (text : String) :
    L.Rel (Run.matchesOf pattern text) (Run.matchesOf pattern text) := by
  cases pattern with
  | regex r =>
    refine L.bind (L.see _) fun x => ?_
    split
    · exact L.bind (L.change _) fun _ => L.pure _
    · exact L.pure _
  | _ => exact L.bind (L.see _) fun _ => L.pure _

theorem replacementOf (hc : L.RelCalls call call') (text : String) (replacement : Value) (m : Match) :
    L.Rel (Run.replacementOf call text replacement m) (Run.replacementOf call' text replacement m) := by
  unfold Run.replacementOf
  split
  · exact L.bind (hc _ _ _) fun _ => L.see _
  · exact L.bind (L.see _) fun _ => L.pure _

theorem splice (text : String) {replaced : Match → Run σ String} {replaced' : Match → Run τ String}
    (h : ∀ m, L.Rel (replaced m) (replaced' m)) (start : Nat) (ms : List Match) :
    L.Rel (Run.splice text replaced start ms) (Run.splice text replaced' start ms) := by
  induction ms generalizing start with
  | nil => exact L.pure _
  | cons m ms ih => exact L.bind (h m) fun _ => L.bind (ih m.span.stop) fun _ => L.pure _

theorem replace (hc : L.RelCalls call call') (text : String) (pattern replacement : Value) :
    L.Rel (Run.replace call text pattern replacement) (Run.replace call' text pattern replacement) :=
  L.bind (L.matchesOf pattern text) fun ms => L.splice text (L.replacementOf hc text replacement) 0 ms

theorem splitText (text : String) (separator : Value) :
    L.Rel (Run.splitText text separator) (Run.splitText text separator) := by
  have separated (v : Value) : L.Rel (do
      let separator ← Run.see (·.text v)
      if separator = "" then return (Text.unitsOf text.toList).map fun u => Text.ofUnits [u]
      else return (Text.splitBy separator.toList text.toList).map String.ofList) (do
      let separator ← Run.see (·.text v)
      if separator = "" then return (Text.unitsOf text.toList).map fun u => Text.ofUnits [u]
      else return (Text.splitBy separator.toList text.toList).map String.ofList) := by
    refine L.bind (L.see _) fun s => ?_
    split
    · exact L.pure _
    · exact L.pure _
  cases separator with
  | undefined => exact L.pure _
  | regex r => exact L.bind (L.see _) fun _ => L.pure _
  | _ => exact separated _

theorem onText (hc : L.RelCalls call call') (text : String) (args : List Value) (m : StringMethod) :
    L.Rel (Run.onText call text args m) (Run.onText call' text args m) := by
  cases m with
  | toString | toUpperCase | toLowerCase | trim => exact L.pure _
  | charAt | charCodeAt | indexOf | slice | substring =>
    unfold Run.onText
    exact L.see _
  | split =>
    refine L.bind (L.splitText text _) fun parts => ?_
    cases Value.argument args 1 with
    | undefined => exact L.newArray _
    | _ => exact L.bind (L.see _) fun _ => L.newArray _
  | replace => exact L.bind (L.replace hc text _ _) fun _ => L.pure _

theorem stringMethod (hc : L.RelCalls call call') (m : StringMethod) (this : Value) (args : List Value) :
    L.Rel (Run.stringMethod call m this args) (Run.stringMethod call' m this args) := by
  unfold Run.stringMethod
  split
  · exact L.refuse _
  · exact L.bind (L.see _) fun text => L.onText hc text args m

/-! ### Functions, numbers and regular expressions -/

theorem argumentList (v : Value) : L.Rel (Run.argumentList v) (Run.argumentList v) := by
  cases v with
  | undefined | null => exact L.pure _
  | array r =>
    unfold Run.argumentList
    exact L.see _
  | _ => exact L.refuse _

theorem bindFunction (target : Value) (args : List Value) :
    L.Rel (Run.bindFunction target args) (Run.bindFunction target args) := by
  cases target with
  | function r => exact L.bind (L.see _) fun name => L.newFunction _
  | _ => exact L.refuse _

theorem fixed (this places : Value) : L.Rel (Run.fixed this places) (Run.fixed this places) := by
  refine L.bind (L.see _) fun n => ?_
  split
  · exact L.raise _ _
  · refine L.bind (L.see _) fun x => ?_
    cases Binary.ofFloat? x with
    | some d => exact L.pure _
    | none => exact L.pure _

theorem search (r : RegexRef) (text : String) : L.Rel (Run.search r text) (Run.search r text) :=
  L.bind (L.see _) fun _ => L.bind (L.change _) fun _ => L.pure _

theorem execRegex (r : RegexRef) (text : String) : L.Rel (Run.execRegex r text) (Run.execRegex r text) := by
  refine L.bind (L.search r text) fun found => ?_
  cases found with
  | some g => exact L.newArray _
  | none => exact L.pure _

theorem makeRegex (source flags : Value) : L.Rel (Run.makeRegex source flags) (Run.makeRegex source flags) := by
  unfold Run.makeRegex
  split
  · exact L.bind (L.see _) fun _ => L.newRegex _ _
  · exact L.bind (L.see _) fun _ => L.bind (L.see _) fun _ => L.newRegex _ _
  · exact L.bind (L.see _) fun _ => L.newRegex _ _
  · exact L.bind (L.see _) fun _ => L.bind (L.see _) fun _ => L.newRegex _ _

theorem makeArray (args : List Value) : L.Rel (Run.makeArray args) (Run.makeArray args) := by
  unfold Run.makeArray
  split
  · split
    · exact L.newArray _
    · exact L.raise _ _
  · exact L.newArray _

/-! ### All functions that are there from the start -/

theorem builtin (hc : L.RelCalls call call') (this : Value) (args : List Value) (b : Builtin) :
    L.Rel (Run.builtin call this args b) (Run.builtin call' this args b) := by
  cases b with
  | hasOwnProperty | ownText | numberText | getPrototypeOf | makeString | makeNumber | isNaN | parseFloat | parseInt =>
    unfold Run.builtin
    exact L.see _
  | classText | receiver | isArray | makeBoolean => exact L.pure _
  | call => exact hc _ _ _
  | apply => exact L.bind (L.argumentList _) fun _ => hc _ _ _
  | bind => exact L.bindFunction _ _
  | array m => exact L.arrayMethod hc m this args
  | string m => exact L.stringMethod hc m this args
  | fixedText => exact L.fixed _ _
  | regexTest =>
    cases this with
    | regex r => exact L.bind (L.see _) fun _ => L.bind (L.search r _) fun _ => L.pure _
    | _ => exact L.refuse _
  | regexExec =>
    cases this with
    | regex r => exact L.bind (L.see _) fun _ => L.execRegex r _
    | _ => exact L.refuse _
  | log => exact L.bind (L.see _) fun line => L.bind (L.log line) fun _ => L.pure _
  | makeObject =>
    unfold Run.builtin
    dsimp only
    split
    · exact L.pure _
    · exact L.emptyObject
  | keys =>
    refine L.bind (L.see _) fun found => ?_
    cases found with
    | some keys => exact L.newArray _
    | none => exact L.refuse _
  | create =>
    unfold Run.builtin
    dsimp only
    split
    · exact L.newObject _
    · exact L.newObject _
    · exact L.refuse _
  | makeFunction => exact L.refuse _
  | makeArray => exact L.makeArray args
  | makeRegex => exact L.makeRegex _ _
  | makeError kind => exact L.bind (L.see _) fun _ => L.newError kind _

end Builtins

end Congruence

end ScriptCoverage.Machine
