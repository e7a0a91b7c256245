import ScriptCoverage.Proofs.Machine.Congruence
import ScriptCoverage.Proofs.Machine.Holding
import ScriptCoverage.Proofs.Machine.Moments

/-!
Runs that deal in objects that exist. `Deals` says of a run which values it is given and which ones it gives: if all
objects that the former stand for are there, then so are those of the latter, however the run ends, and no object gets
another prototype. The rules follow how runs are put together. Which values are known from others
is left to instances of `Known` and `Covers`, so that proofs need not say it.
-/

namespace ScriptCoverage.Machine

variable {σ α β : Type}

/-! ### Values that are known -/

/-- Whether a value is known wherever some others are. -/
class Known (known : List Value) (v : Value) : Prop where
  within : ∀ n, firstObjects ≤ n → AllWithin n known → v.Within n

/-- Whether values are known wherever some others are. -/
class Covers (known vs : List Value) : Prop where
  within : ∀ n, firstObjects ≤ n → AllWithin n known → AllWithin n vs

section

variable {known more vs ws : List Value} {v w : Value}

instance : Known (v :: known) v := ⟨fun _ _ all => (allWithin_cons.1 all).1⟩

instance [h : Known known v] : Known (w :: known) v := ⟨fun n enough all => h.within n enough (allWithin_cons.1 all).2⟩

instance [h : Known known v] : Known (known ++ more) v := ⟨fun n enough all => h.within n enough (allWithin_append.1 all).1⟩

instance [h : Known more v] : Known (known ++ more) v := ⟨fun n enough all => h.within n enough (allWithin_append.1 all).2⟩

instance : Known known .undefined := ⟨fun _ _ _ => trivial⟩

instance : Known known .null := ⟨fun _ _ _ => trivial⟩

instance (b : Bool) : Known known (.bool b) := ⟨fun _ _ _ => trivial⟩

instance (x : Float) : Known known (.number x) := ⟨fun _ _ _ => trivial⟩

instance (n : Nat) : Known known (.ofNat n) := ⟨fun _ _ _ => trivial⟩

instance (s : String) : Known known (.string s) := ⟨fun _ _ _ => trivial⟩

instance (r : ArrayRef) : Known known (.array r) := ⟨fun _ _ _ => trivial⟩

instance (r : FunctionRef) : Known known (.function r) := ⟨fun _ _ _ => trivial⟩

instance (r : RegexRef) : Known known (.regex r) := ⟨fun _ _ _ => trivial⟩

instance : Known known (.object objectPrototype) := ⟨fun _ enough _ => within_objectPrototype enough⟩

instance (kind : ErrorKind) : Known known (.object (errorPrototype kind)) :=
  ⟨fun _ enough _ => within_errorPrototype enough kind⟩

instance [h : Covers known vs] (i : Nat) : Known known (Value.argument vs i) :=
  ⟨fun n enough all => within_argument (h.within n enough all) i⟩

instance (o : Option Value) [h : Covers known (valuesIn ([·]) o)] : Known known (o.getD .undefined) := by
  refine ⟨fun n enough all => ?_⟩
  cases o with
  | none => trivial
  | some v => exact h.within n enough all v List.mem_cons_self

instance {p : Prop} [Decidable p] [hv : Known known v] [hw : Known known w] : Known known (if p then v else w) := by
  split
  · exact hv
  · exact hw

instance (o : Option String) : Known known ((o.map Value.string).getD .undefined) := by
  refine ⟨fun n _ _ => ?_⟩
  cases o <;> trivial

instance : Covers known [] := ⟨fun _ _ _ => allWithin_nil⟩

instance [h : Known known v] [hs : Covers known vs] : Covers known (v :: vs) :=
  ⟨fun n enough all => allWithin_cons.2 ⟨h.within n enough all, hs.within n enough all⟩⟩

instance [hs : Covers known vs] [hs' : Covers known ws] : Covers known (vs ++ ws) :=
  ⟨fun n enough all => allWithin_append.2 ⟨hs.within n enough all, hs'.within n enough all⟩⟩

instance : Covers known known := ⟨fun _ _ all => all⟩

instance [h : Covers known vs] : Covers (v :: known) vs :=
  ⟨fun n enough all => h.within n enough (allWithin_cons.1 all).2⟩

instance [h : Covers known vs] : Covers (known ++ more) vs :=
  ⟨fun n enough all => h.within n enough (allWithin_append.1 all).1⟩

instance [h : Covers more vs] : Covers (known ++ more) vs :=
  ⟨fun n enough all => h.within n enough (allWithin_append.1 all).2⟩

instance [h : Covers known vs] (i : Nat) : Covers known (vs.drop i) :=
  ⟨fun n enough all => (h.within n enough all).of_subset (List.drop_subset i vs)⟩

/-- A list of values that are no objects. -/
theorem covers_map {α : Type} {f : α → Value} (plain : ∀ a n, (f a).Within n) (xs : List α) : Covers known (xs.map f) := by
  refine ⟨fun n _ _ v hv => ?_⟩
  obtain ⟨a, -, rfl⟩ := List.mem_map.1 hv
  exact plain a n

instance (xs : List String) : Covers known (xs.map Value.string) := covers_map (fun s _ => within_string s) xs

instance (xs : List (Option String)) : Covers known (xs.map fun s => (s.map Value.string).getD .undefined) :=
  covers_map (fun s _ => by cases s <;> trivial) xs

instance : Covers known ({} : Table Value).values := ⟨fun _ _ _ => allWithin_nil⟩

instance {t : Table Value} [ht : Covers known t.values] [hv : Known known v] (key : String) :
    Covers known (t.put key v).values :=
  ⟨fun n enough all => allWithin_values_put (ht.within n enough all) (hv.within n enough all) key⟩

instance : Covers known ({} : Object).values := ⟨fun _ _ _ => allWithin_nil⟩

instance (proto : ObjectRef) [h : Known known (.object proto)] :
    Covers known ({ proto := some proto } : Object).values :=
  ⟨fun n enough all => allWithin_append.2 ⟨allWithin_cons.2 ⟨h.within n enough all, allWithin_nil⟩, allWithin_nil⟩⟩

instance {o : Object} [ho : Covers known o.values] [hv : Known known v] (key : String) :
    Covers known (o.set key v).values :=
  ⟨fun n enough all => Object.allWithin_set (ho.within n enough all) (hv.within n enough all) key⟩

instance {o : Object} [ho : Covers known o.values] [hv : Known known v] (key : String) :
    Covers known (o.setHidden key v).values :=
  ⟨fun n enough all => Object.allWithin_setHidden (ho.within n enough all) (hv.within n enough all) key⟩

instance {o : Object} [ho : Covers known o.values] {get set : Option Value} [hg : Covers known (valuesIn ([·]) get)]
    [hs : Covers known (valuesIn ([·]) set)] (key : String) : Covers known (o.setAccessor key get set).values :=
  ⟨fun n enough all =>
    Object.allWithin_setAccessor (ho.within n enough all) (hg.within n enough all) (hs.within n enough all) key⟩

end

variable (held : σ → List Value)

/-- Whether a machine may come of another one on which no prototype is set. -/
structure Extends (m m' : Machine σ) : Prop where
  closed : m'.Closed held
  grows : m.heap.Grows m'.heap

/-- Whether a run ended on a machine that may come of the one that it began with, which has all objects that the result
or the error stands for. -/
inductive Dealt (gives : α → List Value) (m : Machine σ) : EStateM.Result Interrupt (Machine σ) α → Prop
  | ok (a : α) (m' : Machine σ) (on : Extends held m m') (known : m'.Knows (gives a)) : Dealt gives m (.ok a m')
  | failed (e : RuntimeError) (m' : Machine σ) (on : Extends held m m') (known : m'.Knows e.values) :
    Dealt gives m (.error (.failed e) m')
  | outOfFuel (m' : Machine σ) (on : Extends held m m') : Dealt gives m (.error .outOfFuel m')
  | stopped (m' : Machine σ) (on : Extends held m m') : Dealt gives m (.error .stopped m')

/-- Whether a run that is given some values deals in objects that exist, and which values it gives. -/
def Deals (vs : List Value) (gives : α → List Value) (x : Run σ α) : Prop :=
  ∀ m, m.Closed held → m.Knows vs → Dealt held gives m (x m)

variable {held}

theorem Closed.onward {m : Machine σ} (closed : m.Closed held) : Extends held m m := ⟨closed, .refl _⟩

theorem Extends.trans {m₁ m₂ m₃ : Machine σ} (first : Extends held m₁ m₂) (second : Extends held m₂ m₃) :
    Extends held m₁ m₃ := ⟨second.closed, first.grows.trans second.grows⟩

/-- What a machine knows is known from there on. -/
theorem Extends.knows {m m' : Machine σ} (on : Extends held m m') {vs : List Value} (known : m.Knows vs) : m'.Knows vs :=
  known.mono on.grows.size

/-- A machine with another heap that may come of the one before. -/
theorem Closed.onward_heap {m : Machine σ} (closed : m.Closed held) {h : Heap} (heap : h.Closed)
    (grows : m.heap.Grows h) : Extends held m { m with heap := h } :=
  ⟨⟨heap, fun g hg => (closed.frames g hg).mono grows.size, closed.host.mono grows.size⟩, grows⟩

namespace Dealt

variable {gives : α → List Value} {m m' : Machine σ} {r : EStateM.Result Interrupt (Machine σ) α}

theorem onward (dealt : Dealt held gives m r) : Extends held m (machineOf r) := by
  cases dealt with
  | ok _ _ on | failed _ _ on | outOfFuel _ on | stopped _ on => exact on

theorem after (dealt : Dealt held gives m' r) (on : Extends held m m') : Dealt held gives m r := by
  cases dealt with
  | ok a n on' known => exact .ok a n (on.trans on') known
  | failed e n on' known => exact .failed e n (on.trans on') known
  | outOfFuel n on' => exact .outOfFuel n (on.trans on')
  | stopped n on' => exact .stopped n (on.trans on')

end Dealt

/-! ### Putting runs together -/

namespace Deals

variable {vs ws : List Value} {gives gives' : α → List Value}

/-- A run that is given more than it asks for. -/
theorem of [c : Covers vs ws] {x : Run σ α} (h : Deals held ws gives x) : Deals held vs gives x :=
  fun m closed known => h m closed (c.within _ closed.heap.enough known)

theorem pure (a : α) [c : Covers vs (gives a)] : Deals held vs gives (pure a) :=
  fun m closed known => .ok a m closed.onward (c.within _ closed.heap.enough known)

theorem failing (e : RuntimeError) : Deals held e.values gives (Run.fail e : Run σ α) :=
  fun m closed known => .failed e m closed.onward known

theorem throwing (v : Value) [c : Known vs v] : Deals held vs gives (Run.fail (.thrown v) : Run σ α) :=
  (failing (.thrown v)).of

/-- An error that holds no value. -/
theorem fail {e : RuntimeError} (plain : e.values = []) : Deals held vs gives (Run.fail e : Run σ α) := by
  have covers : Covers vs e.values := by
    rw [plain]
    infer_instance
  exact (failing e).of

theorem refuse (f : TypeFault) : Deals held vs gives (Run.refuse f : Run σ α) := fail rfl

theorem outOfFuel : Deals held vs gives (throw .outOfFuel : Run σ α) := fun m closed _ => .outOfFuel m closed.onward

/-- What is known at the beginning is known behind each step. -/
theorem bind {x : Run σ α} {f : α → Run σ β} {gives' : β → List Value} (hx : Deals held vs gives x)
    (hf : ∀ a, Deals held (gives a ++ vs) gives' (f a)) : Deals held vs gives' (x >>= f) := by
  intro m closed known
  have first := hx m closed known
  change Dealt held gives' m (EStateM.bind x f m)
  unfold EStateM.bind
  generalize x m = r at first
  cases first with
  | ok a n on given => exact (hf a n on.closed (allWithin_append.2 ⟨given, on.knows known⟩)).after on
  | failed e n on given => exact .failed e n on given
  | outOfFuel n on => exact .outOfFuel n on
  | stopped n on => exact .stopped n on

theorem attempt {x : Run σ α} (hx : Deals held vs gives x) :
    Deals held vs (resultValues gives) (Run.attempt x) := by
  intro m closed known
  have dealt := hx m closed known
  unfold Run.attempt
  generalize x m = r at dealt
  cases dealt with
  | ok a n on given => exact .ok (Except.ok a) n on given
  | failed e n on given => exact .ok (Except.error e) n on given
  | outOfFuel n on => exact .outOfFuel n on
  | stopped n on => exact .stopped n on

theorem watched {x : Run σ α} (hx : Deals held vs gives x) (waits : Machine σ → Bool) :
    Deals held vs gives (Run.watched waits x) := by
  have watch {vs : List Value} : Deals held vs (fun _ => []) (Run.watch waits) := by
    intro m closed _
    unfold Run.watch
    split
    · exact .stopped m closed.onward
    · exact .ok () m closed.onward allWithin_nil
  exact bind watch fun _ => bind hx fun a => bind watch fun _ => pure a

theorem resume (r : Except RuntimeError α) : Deals held (resultValues gives r) gives (Run.resume r : Run σ α) := by
  cases r with
  | ok a => exact pure a
  | error e => exact failing e

/-- One level deeper, unless there are too many. -/
theorem level {x : Run σ α} (hx : Deals held vs gives x) :
    Deals held vs gives (do if maxDepth ≤ (← get).depth then Run.fail .stackOverflow else Run.deeper x) := by
  intro m closed known
  have dealt := hx { m with depth := m.depth + 1 } ⟨closed.heap, closed.frames, closed.host⟩ known
  -- the depth is no part of what is dealt with
  have outside (n : Machine σ) (on : Extends held { m with depth := m.depth + 1 } n) :
      Extends held m { n with depth := m.depth } := ⟨⟨on.closed.heap, on.closed.frames, on.closed.host⟩, on.grows⟩
  change Dealt held gives m ((if maxDepth ≤ m.depth then Run.fail .stackOverflow else Run.deeper x) m)
  split
  · exact (fail rfl : Deals held vs gives _) m closed known
  · unfold Run.deeper
    dsimp only
    generalize x { m with depth := m.depth + 1 } = r at dealt
    cases dealt with
    | ok a n on given => exact .ok a { n with depth := m.depth } (outside n on) given
    | failed e n on given => exact .failed e { n with depth := m.depth } (outside n on) given
    | outOfFuel n on => exact .outOfFuel { n with depth := m.depth } (outside n on)
    | stopped n on => exact .stopped { n with depth := m.depth } (outside n on)

/-- A step that leaves heap, frames and host as they are. -/
theorem still {f : Machine σ → Machine σ} (h : ∀ m, (f m).heap = m.heap ∧ (f m).frames = m.frames ∧ (f m).host = m.host) :
    Deals held vs (fun _ => []) (modify f : Run σ Unit) := by
  intro m closed _
  obtain ⟨heap, frames, host⟩ := h m
  have knows (ws : List Value) : (f m).Knows ws ↔ m.Knows ws := by rw [Knows, Knows, heap]
  refine .ok () (f m) ⟨⟨?_, fun g hg => ?_, ?_⟩, .of_objects_eq (congrArg Heap.objects heap)⟩ allWithin_nil
  · rw [heap]
    exact closed.heap
  · rw [frames] at hg
    exact (knows _).2 (closed.frames g hg)
  · rw [host]
    exact (knows _).2 closed.host

/-- Changing the state of the host so that it holds nothing unknown. -/
theorem note {f : σ → σ} (h : ∀ s, Covers (held s ++ vs) (held (f s))) :
    Deals held vs (fun _ => []) (Run.note f : Run σ Unit) := by
  intro m closed known
  have host := (h m.host).within _ closed.heap.enough (allWithin_append.2 ⟨closed.host, known⟩)
  exact .ok () { m with host := f m.host } ⟨⟨closed.heap, closed.frames, host⟩, .refl _⟩ allWithin_nil

/-! ### Looking at machines -/

/-- Looking at something that a machine holds. -/
theorem look {f : Machine σ → α} (h : ∀ m : Machine σ, m.Closed held → m.Knows vs → m.Knows (gives (f m))) :
    Deals held vs gives (fun m => .ok (f m) m : Run σ α) :=
  fun m closed known => .ok _ m closed.onward (h m closed known)

theorem lookNone (f : Machine σ → α) : Deals held vs (fun _ => []) (fun m => .ok (f m) m : Run σ α) :=
  look fun _ _ _ => allWithin_nil

theorem see {f : Heap → α} (h : ∀ H : Heap, H.Closed → AllWithin H.objects.size vs → AllWithin H.objects.size (gives (f H))) :
    Deals held vs gives (Run.see f : Run σ α) := look fun m closed known => h m.heap closed.heap known

/-- Looking at something that is no value. -/
theorem seeNone (f : Heap → α) : Deals held vs (fun _ => []) (Run.see f : Run σ α) := see fun _ _ _ => allWithin_nil

/-- Computing a value that is no object. -/
theorem seePlain {f : Heap → Value} (plain : ∀ H n, (f H).Within n) : Deals held vs ([·]) (Run.see f : Run σ Value) :=
  see fun H _ _ => allWithin_cons.2 ⟨plain H _, allWithin_nil⟩

theorem seeLookup (r : ObjectRef) (key : String) :
    Deals held vs (valuesIn Property.values) (Run.see (·.lookup? r key) : Run σ (Option Property)) := by
  refine see fun H closed _ => ?_
  cases found : H.lookup? r key with
  | none => exact allWithin_nil
  | some p => exact closed.lookup? found

theorem seeFunction (r : FunctionRef) : Deals held vs Function.values (Run.see (·.function r) : Run σ Function) :=
  see fun _ closed _ => closed.function r

theorem seeArray (r : ArrayRef) : Deals held vs Array.toList (Run.see (·.array r) : Run σ (Array Value)) :=
  see fun _ closed _ => closed.array r

theorem seeItems (r : ArrayRef) :
    Deals held vs (fun items => items) (Run.see fun h => (h.array r).toList : Run σ (List Value)) :=
  see fun _ closed _ => closed.array r

/-! ### Changing heaps -/

theorem change {f : Heap → Heap}
    (h : ∀ H : Heap, H.Closed → AllWithin H.objects.size vs → (f H).Closed ∧ H.Grows (f H)) :
    Deals held vs (fun _ => []) (Run.change f : Run σ Unit) := by
  intro m closed known
  obtain ⟨heap, grows⟩ := h m.heap closed.heap known
  exact .ok () _ (closed.onward_heap heap grows) allWithin_nil

theorem changeObject (r : ObjectRef) {f : Object → Object} (proto : ∀ o, (f o).proto = o.proto)
    (h : ∀ n o, AllWithin n vs → AllWithin n o.values → AllWithin n (f o).values) :
    Deals held vs (fun _ => []) (Run.change (·.modifyObject r f) : Run σ Unit) :=
  change fun H closed known => ⟨closed.modifyObject r fun o => h _ o known, .modifyObject H r proto⟩

theorem changeProperties (r : FunctionRef) {f : Object → Object}
    (h : ∀ n o, AllWithin n vs → AllWithin n o.values → AllWithin n (f o).values) :
    Deals held vs (fun _ => []) (Run.change (·.modifyProperties r f) : Run σ Unit) :=
  change fun _ closed known => ⟨closed.modifyProperties r fun o => h _ o known, .of_objects_eq rfl⟩

theorem changeArray (r : ArrayRef) {f : Array Value → Array Value}
    (h : ∀ n (items : Array Value), AllWithin n vs → AllWithin n items.toList → AllWithin n (f items).toList) :
    Deals held vs (fun _ => []) (Run.change (·.modifyArray r f) : Run σ Unit) :=
  change fun _ closed known => ⟨closed.modifyArray r fun items => h _ items known, .of_objects_eq rfl⟩

theorem setLastIndex (r : RegexRef) (n : Nat) :
    Deals held vs (fun _ => []) (Run.change (·.setLastIndex r n) : Run σ Unit) :=
  change fun _ closed _ => ⟨closed.setLastIndex r n, .of_objects_eq rfl⟩

/-! ### New values -/

theorem addObject (o : Object) : Deals held o.values (fun r => [.object r]) (Run.add (·.addObject o) : Run σ ObjectRef) := by
  intro m closed known
  have grows : m.heap.Grows (m.heap.addObject o).2 := .addObject known
  have new : (m.heap.addObject o).1.index < (m.heap.addObject o).2.objects.size := by simp [Heap.addObject]
  exact .ok _ _ (closed.onward_heap (closed.heap.addObject known) grows) (allWithin_cons.2 ⟨new, allWithin_nil⟩)

theorem newObject (o : Object) : Deals held o.values ([·]) (Run.newObject o : Run σ Value) :=
  bind (addObject o) fun _ => pure _

theorem emptyObject : Deals held vs ([·]) (Run.emptyObject : Run σ Value) := (newObject _).of

theorem newArray (items : List Value) : Deals held items ([·]) (Run.newArray items : Run σ Value) := by
  have add : Deals held items (fun _ => []) (Run.add (·.addArray items.toArray) : Run σ ArrayRef) := by
    intro m closed known
    exact .ok _ _ (closed.onward_heap (closed.heap.addArray known) (.of_objects_eq rfl)) allWithin_nil
  exact bind add fun _ => pure _

theorem newFunction (f : Function) : Deals held f.values ([·]) (Run.newFunction f : Run σ Value) := by
  have add : Deals held f.values (fun _ => []) (Run.add (·.addFunction f) : Run σ FunctionRef) := by
    intro m closed known
    exact .ok _ _ (closed.onward_heap (closed.heap.addFunction known) (.of_objects_eq rfl)) allWithin_nil
  exact bind add fun _ => pure _

theorem newRegex (source flags : String) : Deals held vs ([·]) (Run.newRegex source flags : Run σ Value) := by
  unfold Run.newRegex
  cases Pattern.Regex.compile source flags with
  | ok x =>
    have add : Deals held vs (fun _ => []) (Run.add (·.addRegex x) : Run σ RegexRef) := by
      intro m closed _
      exact .ok _ _ (closed.onward_heap (closed.heap.addRegex x) (.of_objects_eq rfl)) allWithin_nil
    exact bind add fun _ => pure _
  | error message => exact fail rfl

theorem newError (kind : ErrorKind) (message : String) : Deals held vs ([·]) (Run.newError kind message : Run σ Value) :=
  (newObject _).of

theorem raise (kind : ErrorKind) (message : String) : Deals held vs gives (Run.raise kind message : Run σ α) :=
  bind (newError kind message) fun v => throwing v

theorem caughtValue (e : RuntimeError) : Deals held e.values ([·]) (Run.caughtValue e : Run σ Value) := by
  cases e with
  | thrown v => exact pure v
  | _ => exact newError _ _

/-! ### Frames -/

/-- Changing frames so that they hold nothing new. -/
theorem changeFrames {f : Machine σ → Machine σ} (rest : ∀ m, (f m).heap = m.heap ∧ (f m).host = m.host)
    (h : ∀ m : Machine σ, m.Closed held → m.Knows vs → ∀ g ∈ (f m).frames, m.Knows g.values) :
    Deals held vs (fun _ => []) (modify f : Run σ Unit) := by
  intro m closed known
  obtain ⟨heap, host⟩ := rest m
  have knows (ws : List Value) : (f m).Knows ws ↔ m.Knows ws := by rw [Knows, Knows, heap]
  refine .ok () (f m) ⟨⟨?_, fun g hg => ?_, ?_⟩, .of_objects_eq (congrArg Heap.objects heap)⟩ allWithin_nil
  · rw [heap]
    exact closed.heap
  · exact (knows _).2 (h m closed known g hg)
  · rw [host]
    exact (knows _).2 closed.host

theorem changeBindings (r : FrameRef) {f : Table Value → Table Value}
    (h : ∀ n t, AllWithin n vs → AllWithin n t.values → AllWithin n (f t).values) :
    Deals held vs (fun _ => []) (modify (·.modifyBindings r f) : Run σ Unit) := by
  refine changeFrames (fun _ => ⟨rfl, rfl⟩) fun m closed known => ?_
  refine forall_mem_modify (p := fun g : Frame => m.Knows g.values)
    (f := fun g : Frame => { g with bindings := f g.bindings }) closed.frames r.index fun g all => ?_
  obtain ⟨kind, bindings⟩ := allWithin_append.1 all
  exact allWithin_append.2 ⟨kind, h _ _ known bindings⟩

theorem bindName (r : FrameRef) (name : String) (v : Value) :
    Deals held [v] (fun _ => []) (modify (·.bind r name v) : Run σ Unit) :=
  changeBindings r fun _ _ known all => allWithin_values_put all (known v List.mem_cons_self) name

theorem declare (scope : Scope) (name : String) (v : Value) :
    Deals held [v] (fun _ => []) (Run.declare scope name v : Run σ Unit) := bindName _ name v

theorem declareVariable (scope : Scope) (name : String) :
    Deals held vs (fun _ => []) (modify (·.declareVariable scope name) : Run σ Unit) := by
  intro m closed known
  have bound : Deals held vs (fun _ => []) (modify (·.bind (m.variableFrame scope) name .undefined) : Run σ Unit) :=
    (bindName _ name .undefined).of
  change Dealt held _ m (.ok () (m.declareVariable scope name))
  unfold Machine.declareVariable
  dsimp only
  split
  · exact .ok () m closed.onward allWithin_nil
  · exact bound m closed known

theorem openFrame (kind : FrameKind) (bindings : Table Value) (scope : Scope) :
    Deals held (kind.values ++ bindings.values) (fun _ => []) (Run.openFrame kind bindings scope : Run σ Scope) := by
  intro m closed known
  refine .ok _ _ ⟨⟨closed.heap, ?_, closed.host⟩, .refl _⟩ allWithin_nil
  exact forall_mem_push (p := fun g : Frame => m.Knows g.values) closed.frames known

theorem closure (scope : Scope) (decl : Program.Func) :
    Deals held vs ([·]) (Run.closure scope decl : Run σ Value) := by
  have covers : Covers vs ({ name := decl.name.getD "", kind := .script decl scope } : Function).values :=
    ⟨fun _ _ _ => allWithin_nil⟩
  exact (newFunction _).of

theorem hoist (scope : Scope) (ds : List Program.Declared) :
    Deals held vs (fun _ => []) (Run.hoist scope ds : Run σ Unit) := by
  induction ds generalizing vs with
  | nil => exact pure ()
  | cons d ds ih =>
    cases d with
    | «variable» name => exact bind (declareVariable scope name) fun _ => ih
    | function name decl => exact bind (closure scope decl) fun f => bind (declare scope name f).of fun _ => ih

theorem find (scope : Scope) (name : String) :
    Deals held vs (valuesIn Resolved.values) (Run.find scope name : Run σ (Option Resolved)) := by
  refine look fun m closed _ => ?_
  rw [Machine.resolve?]
  induction scope with
  | nil => exact allWithin_nil
  | cons r outer ih =>
    have own := (allWithin_append.1 (closed.frame r)).1
    rw [resolveWith?]
    cases kind : (m.frame r).kind with
    | object v =>
      rw [kind] at own
      dsimp only
      split
      · simpa [Knows] using own
      · exact ih
    | _ =>
      dsimp only
      split
      · exact allWithin_nil
      · exact ih

end Deals

end ScriptCoverage.Machine
