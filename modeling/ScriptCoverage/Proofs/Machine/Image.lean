import ScriptCoverage.Machine.Builtin
import ScriptCoverage.Proofs.Coverage.Probing

/-!
Two runs of a module, one of them with probes, keep heaps of the same shape: all places are the same, and
functions differ in the bodies of their code only, if they were made within the frame of the module. `Weave`
says which code that is, and `Weave.heap` makes the second heap from the first. Main statements: whatever a
run computes from a heap it computes from its image as well (`text_heap`, `number_heap`, `hasProperty_heap`
and others).
-/

namespace ScriptCoverage.Machine

/-- Where probes stand: in code whose scope contains the frame `home`, if there is such a frame. The recorder
is that of a session, and probes are fit for some ranges. -/
structure Weave where
  probe : Probe
  session : Nat
  home : Option FrameRef
  fits : Span → Prop

namespace Weave

variable (S : Weave)

/-- Whether code of a scope has probes. -/
def isHome (scope : Scope) : Bool := S.home.any scope.contains

/-- What is done to the bodies of code of a scope. -/
def bodies (scope : Scope) : List Program.Stmt → List Program.Stmt :=
  if S.isHome scope then S.probe.weave else id

theorem inert_bodies (scope : Scope) : Program.Declared.Inert (S.bodies scope) := by
  rw [bodies]
  split
  · exact S.probe.inert_weave
  · exact fun _ => rfl

/-! ### Images of functions and heaps -/

/-- A function with the probes that its code gets. -/
def kind : FunctionKind → FunctionKind
  | .script decl scope => .script (decl.mapBodies (S.bodies scope)) scope
  | k => k

def function (f : Function) : Function := { f with kind := S.kind f.kind }

/-- A heap with the probes that the code of its functions gets. -/
def heap (h : Heap) : Heap := { h with functions := h.functions.map S.function }

theorem isHome_nil : S.isHome [] = false := by
  cases h : S.home <;> simp [isHome, h]

theorem function_default : S.function default = default := by
  have h : S.bodies [] = id := by rw [bodies, isHome_nil]; rfl
  have decl : (default : Program.Func).mapBodies (S.bodies []) = default := by
    rw [h]
    exact Program.Func.mapBodies_id _
  exact congrArg (fun d : Program.Func => ({ name := default, kind := .script d [], properties := default } : Function))
    decl

@[simp]
theorem hasOwnPrototype_kind (k : FunctionKind) : (S.kind k).hasOwnPrototype = k.hasOwnPrototype := by
  cases k with
  | script decl scope => simp [kind, FunctionKind.hasOwnPrototype]
  | _ => rfl

variable (h : Heap)

/-! ### Contents -/

@[simp]
theorem objects_heap : (S.heap h).objects = h.objects := rfl

@[simp]
theorem arrays_heap : (S.heap h).arrays = h.arrays := rfl

@[simp]
theorem object_heap (r : ObjectRef) : (S.heap h).object r = h.object r := rfl

@[simp]
theorem array_heap (r : ArrayRef) : (S.heap h).array r = h.array r := rfl

@[simp]
theorem regex_heap (r : RegexRef) : (S.heap h).regex r = h.regex r := rfl

@[simp]
theorem function_heap (r : FunctionRef) : (S.heap h).function r = S.function (h.function r) := by
  rw [Heap.function, Heap.function, heap, Array.getElem?_map]
  cases h.functions[r.index]? with
  | none => exact S.function_default.symm
  | some f => rfl

@[simp]
theorem size_functions_heap : (S.heap h).functions.size = h.functions.size := Array.size_map

/-! ### Prototypes and bindings -/

@[simp]
theorem chain_heap (r : Option ObjectRef) : (S.heap h).chain r = h.chain r := by
  have within (n : Nat) (r : Option ObjectRef) : (S.heap h).chainWithin n r = h.chainWithin n r := by
    induction n generalizing r with
    | zero => rfl
    | succ n ih =>
      cases r with
      | none => rfl
      | some r => rw [Heap.chainWithin, Heap.chainWithin, ih, object_heap]
  exact within _ _

@[simp]
theorem lookup?_heap (r : ObjectRef) (key : String) : (S.heap h).lookup? r key = h.lookup? r key := by
  simp [Heap.lookup?]

@[simp]
theorem has_heap (r : ObjectRef) (key : String) : (S.heap h).has r key = h.has r key := by
  simp [Heap.has]

@[simp]
theorem isConstructor_heap (r : FunctionRef) : (S.heap h).isConstructor r = h.isConstructor r := by
  have within (n : Nat) (r : FunctionRef) : (S.heap h).isConstructorWithin n r = h.isConstructorWithin n r := by
    induction n generalizing r with
    | zero => rfl
    | succ n ih =>
      rw [Heap.isConstructorWithin, Heap.isConstructorWithin, function_heap, function]
      cases (h.function r).kind <;> simp [kind, ih]
  rw [Heap.isConstructor, Heap.isConstructor, size_functions_heap, within]

@[simp]
theorem arity_heap (r : FunctionRef) : (S.heap h).arity r = h.arity r := by
  have within (n : Nat) (r : FunctionRef) : (S.heap h).arityWithin n r = h.arityWithin n r := by
    induction n generalizing r with
    | zero => rfl
    | succ n ih =>
      rw [Heap.arityWithin, Heap.arityWithin, function_heap, function]
      cases (h.function r).kind <;> simp [kind, ih]
  rw [Heap.arity, Heap.arity, size_functions_heap, within]

@[simp]
theorem unbound_heap (r : FunctionRef) (args : List Value) : (S.heap h).unbound r args = h.unbound r args := by
  have within (n : Nat) (r : FunctionRef) (args : List Value) :
      (S.heap h).unboundWithin n r args = h.unboundWithin n r args := by
    induction n generalizing r args with
    | zero => rfl
    | succ n ih =>
      rw [Heap.unboundWithin, Heap.unboundWithin, function_heap, function]
      cases (h.function r).kind <;> simp [kind, ih]
  rw [Heap.unbound, Heap.unbound, size_functions_heap, within]

/-! ### Texts and numbers -/

@[simp]
theorem text_heap (v : Value) : (S.heap h).text v = h.text v := by
  have object (r : ObjectRef) : (S.heap h).objectText r = h.objectText r := by simp [Heap.objectText]
  have within (n : Nat) (v : Value) : (S.heap h).textWithin n v = h.textWithin n v := by
    induction n generalizing v with
    | zero => cases v <;> simp [Heap.textWithin, object, function]
    | succ n ih =>
      cases v with
      | array r => simp [Heap.textWithin, ih]
      | _ => simp [Heap.textWithin, object, function]
  exact within _ _

@[simp]
theorem joined_heap (separator : String) (vs : List Value) : (S.heap h).joined separator vs = h.joined separator vs := by
  simp [Heap.joined]

@[simp]
theorem argumentText_heap (v : Value) : (S.heap h).argumentText v = h.argumentText v := by
  simp [Heap.argumentText]

@[simp]
theorem primitive_heap (v : Value) : (S.heap h).primitive v = h.primitive v := by
  simp [Heap.primitive]

@[simp]
theorem number_heap (v : Value) : (S.heap h).number v = h.number v := by
  cases v <;> simp [Heap.number]

@[simp]
theorem int32_heap (v : Value) : (S.heap h).int32 v = h.int32 v := by simp [Heap.int32]

@[simp]
theorem uint32_heap (v : Value) : (S.heap h).uint32 v = h.uint32 v := by simp [Heap.uint32]

@[simp]
theorem unboolean_heap (v : Value) : (S.heap h).unboolean v = h.unboolean v := by
  cases v <;> simp [Heap.unboolean]

@[simp]
theorem looseEquals_heap (a b : Value) : (S.heap h).looseEquals a b = h.looseEquals a b := by
  simp [Heap.looseEquals]

@[simp]
theorem compare_heap (r : Heap.Relation) (a b : Value) : (S.heap h).compare r a b = h.compare r a b := by
  simp [Heap.compare]

@[simp]
theorem sum_heap (a b : Value) : (S.heap h).sum a b = h.sum a b := by
  cases a <;> cases b <;> simp [Heap.sum]

@[simp]
theorem onBits_heap (f : Int32 → Int32 → Int32) (a b : Value) : (S.heap h).onBits f a b = h.onBits f a b := by
  simp [Heap.onBits]

@[simp]
theorem onNumbers_heap (f : Float → Float → Float) (a b : Value) :
    (S.heap h).onNumbers f a b = h.onNumbers f a b := by
  simp [Heap.onNumbers]

@[simp]
theorem relativeIndex_heap (v : Value) (length default : Nat) :
    (S.heap h).relativeIndex v length default = h.relativeIndex v length default := by
  simp [Heap.relativeIndex]

@[simp]
theorem clampedIndex_heap (v : Value) (length default : Nat) :
    (S.heap h).clampedIndex v length default = h.clampedIndex v length default := by
  simp [Heap.clampedIndex]

@[simp]
theorem spread_heap (v : Value) : (S.heap h).spread v = h.spread v := by
  cases v <;> simp [Heap.spread]

/-! ### Keys -/

@[simp]
theorem prototypeOf?_heap (v : Value) : (S.heap h).prototypeOf? v = h.prototypeOf? v := by
  cases v <;> simp [Heap.prototypeOf?]

@[simp]
theorem hasOwn_heap (v : Value) (key : String) : (S.heap h).hasOwn v key = h.hasOwn v key := by
  cases v with
  | array r => rfl
  | _ => simp [Heap.hasOwn, function]

@[simp]
theorem hasProperty_heap (v : Value) (key : String) : (S.heap h).hasProperty v key = h.hasProperty v key := by
  cases v <;> simp [Heap.hasProperty, function]

@[simp]
theorem ownKeys?_heap (v : Value) : (S.heap h).ownKeys? v = h.ownKeys? v := by
  cases v <;> simp [Heap.ownKeys?, function]

@[simp]
theorem loopKeys_heap (v : Value) : (S.heap h).loopKeys v = h.loopKeys v := by
  cases v <;> simp [Heap.loopKeys]

/-! ### Changes -/

theorem modifyProperties_heap (r : FunctionRef) (f : Object → Object) :
    (S.heap h).modifyProperties r f = S.heap (h.modifyProperties r f) := by
  have functions : (h.functions.map S.function).modify r.index (fun g => { g with properties := f g.properties }) =
      (h.functions.modify r.index fun g => { g with properties := f g.properties }).map S.function := by
    refine Array.ext (by simp) fun i hi hi' => ?_
    simp only [Array.getElem_map, Array.getElem_modify]
    split <;> rfl
  exact congrArg (fun fs => { h with functions := fs }) functions

theorem addFunction_heap (f : Function) :
    (S.heap h).addFunction (S.function f) = ((h.addFunction f).1, S.heap (h.addFunction f).2) := by
  simp [Heap.addFunction, heap]

end Weave

end ScriptCoverage.Machine
