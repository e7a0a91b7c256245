import ScriptCoverage.Machine.Evaluate
import ScriptCoverage.Machine.Initial
import ScriptCoverage.Proofs.Table

/-!
The values that the parts of a machine hold. A machine is `Closed` if all objects that its values stand for are there.
`Heap.Grows` says how a heap may come of another one on which no prototype is set: new objects come behind the old ones,
with prototypes that are older than themselves.
-/

namespace ScriptCoverage.Machine

variable {σ : Type}

/-! ### Places of objects -/

/-- Number of the prototypes that are there from the start. -/
def firstObjects : Nat := 11

/-- Whether a value is the place of one of the first `n` objects, if it is the place of an object at all. -/
def Value.Within (n : Nat) : Value → Prop
  | .object r => r.index < n
  | _ => True

/-- Whether values are places of the first `n` objects, as far as they are places of objects. -/
def AllWithin (n : Nat) (vs : List Value) : Prop := ∀ v ∈ vs, v.Within n

instance (n : Nat) (v : Value) : Decidable (v.Within n) := by
  cases v
  case object r => exact inferInstanceAs (Decidable (r.index < n))
  all_goals exact .isTrue trivial

instance (n : Nat) (vs : List Value) : Decidable (AllWithin n vs) := inferInstanceAs (Decidable (∀ v ∈ vs, v.Within n))

section

variable {n n' : Nat} {v : Value} {vs ws : List Value}

@[simp] theorem within_bool (b : Bool) : (Value.bool b).Within n := trivial
@[simp] theorem within_number (x : Float) : (Value.number x).Within n := trivial
@[simp] theorem within_ofNat (k : Nat) : (Value.ofNat k).Within n := trivial
@[simp] theorem within_string (s : String) : (Value.string s).Within n := trivial
theorem within_object {r : ObjectRef} : (Value.object r).Within n ↔ r.index < n := Iff.rfl

@[simp] theorem allWithin_nil : AllWithin n [] := nofun

@[simp]
theorem allWithin_cons : AllWithin n (v :: vs) ↔ v.Within n ∧ AllWithin n vs := List.forall_mem_cons

@[simp]
theorem allWithin_append : AllWithin n (vs ++ ws) ↔ AllWithin n vs ∧ AllWithin n ws := List.forall_mem_append

theorem Value.Within.mono (h : v.Within n) (le : n ≤ n') : v.Within n' := by
  cases v with
  | object r => exact Nat.lt_of_lt_of_le h le
  | _ => trivial

theorem AllWithin.mono (h : AllWithin n vs) (le : n ≤ n') : AllWithin n' vs := fun v hv => (h v hv).mono le

theorem AllWithin.of_subset (h : AllWithin n vs) (sub : ws ⊆ vs) : AllWithin n ws := fun v hv => h v (sub hv)

theorem within_objectPrototype (enough : firstObjects ≤ n) : (Value.object objectPrototype).Within n :=
  Nat.lt_of_lt_of_le (by decide) enough

theorem within_errorPrototype (enough : firstObjects ≤ n) (kind : ErrorKind) :
    (Value.object (errorPrototype kind)).Within n := by
  refine Nat.lt_of_lt_of_le ?_ enough
  cases kind <;> decide

theorem allWithin_values_put {t : Table Value} (h : AllWithin n t.values) (hv : v.Within n) (key : String) :
    AllWithin n (t.put key v).values := by
  intro w hw
  rcases Table.mem_values_put hw with rfl | old
  · exact hv
  · exact h w old

theorem within_argument (h : AllWithin n vs) (i : Nat) : (Value.argument vs i).Within n := by
  rw [Value.argument]
  cases found : vs[i]? with
  | none => trivial
  | some v => exact h v (List.mem_of_getElem? found)

end

/-! ### Values that are held -/

/-- The values in something that may be missing. -/
@[simp, reducible]
def valuesIn {α : Type} (values : α → List Value) : Option α → List Value
  | none => []
  | some a => values a

@[simp, reducible]
def Property.values : Property → List Value
  | data v => [v]
  | accessor get set => valuesIn ([·]) get ++ valuesIn ([·]) set

/-- The values in an object, its prototype among them. -/
def Object.values (o : Object) : List Value :=
  (o.proto.map Value.object).toList ++ o.slots.values.flatMap (·.property.values)

@[simp, reducible]
def FunctionKind.values : FunctionKind → List Value
  | .bound _ this args => this :: args
  | .script .. | .native _ => []

@[simp, reducible]
def Function.values (f : Function) : List Value := f.kind.values ++ f.properties.values

@[simp, reducible]
def FrameKind.values : FrameKind → List Value
  | .function this => [this]
  | .object v => [v]
  | .global | .arrow | .block => []

@[simp, reducible]
def Frame.values (g : Frame) : List Value := g.kind.values ++ g.bindings.values

@[simp, reducible]
def RuntimeError.values : RuntimeError → List Value
  | .thrown v => [v]
  | _ => []

@[simp, reducible]
def Completion.values : Completion → List Value
  | .returned v => [v]
  | _ => []

/-- The values in a result or an error. -/
@[simp, reducible]
def resultValues {α : Type} (values : α → List Value) : Except RuntimeError α → List Value
  | .ok a => values a
  | .error e => e.values

@[simp, reducible]
def Resolved.values : Resolved → List Value
  | .property v => [v]
  | .binding _ => []

@[simp, reducible]
def Evaluator.Reference.values : Evaluator.Reference → List Value
  | .property v _ => [v]
  | .name _ => []

namespace Object

variable {n : Nat} {o : Object} {p : Property}

theorem allWithin_values : AllWithin n o.values ↔
    (∀ r, o.proto = some r → r.index < n) ∧ ∀ s ∈ o.slots.values, AllWithin n s.property.values := by
  rw [values, allWithin_append]
  refine and_congr ?_ ?_
  · cases o.proto with
    | none => simp
    | some r => simp [within_object]
  · constructor
    · intro h s hs v hv
      exact h v (List.mem_flatMap.2 ⟨s, hs, hv⟩)
    · intro h v hv
      obtain ⟨s, hs, hv⟩ := List.mem_flatMap.1 hv
      exact h s hs v hv

theorem allWithin_property (h : AllWithin n o.values) {key : String} (found : o.property? key = some p) :
    AllWithin n p.values := by
  obtain ⟨s, hs, rfl⟩ := Option.map_eq_some_iff.1 found
  exact (allWithin_values.1 h).2 s (Table.mem_values_of_get? hs)

theorem within_get? (h : AllWithin n o.values) {key : String} {v : Value} (found : o.get? key = some v) : v.Within n := by
  obtain ⟨p, hp, held⟩ := Option.bind_eq_some_iff.1 found
  cases p with
  | data w =>
    obtain rfl : w = v := Option.some.inj held
    exact allWithin_property h hp w List.mem_cons_self
  | accessor => cases held

theorem allWithin_put (h : AllWithin n o.values) (hp : AllWithin n p.values) (key : String) (enumerable : Bool) :
    AllWithin n (o.put key p enumerable).values := by
  obtain ⟨proto, slots⟩ := allWithin_values.1 h
  refine allWithin_values.2 ⟨proto, fun s hs => ?_⟩
  rcases Table.mem_values_put hs with rfl | old
  · exact hp
  · exact slots s old

theorem allWithin_set (h : AllWithin n o.values) {v : Value} (hv : v.Within n) (key : String) :
    AllWithin n (o.set key v).values := allWithin_put h (by simpa [Property.values] using hv) key true

theorem allWithin_setHidden (h : AllWithin n o.values) {v : Value} (hv : v.Within n) (key : String) :
    AllWithin n (o.setHidden key v).values := allWithin_put h (by simpa [Property.values] using hv) key false

theorem allWithin_setAccessor (h : AllWithin n o.values) {get set : Option Value} (hg : AllWithin n (valuesIn ([·]) get))
    (hs : AllWithin n (valuesIn ([·]) set)) (key : String) : AllWithin n (o.setAccessor key get set).values := by
  have first {a b : Option Value} (ha : AllWithin n (valuesIn ([·]) a)) (hb : AllWithin n (valuesIn ([·]) b)) :
      AllWithin n (valuesIn ([·]) (a.or b)) := by
    cases a with
    | none => exact hb
    | some v => exact ha
  rw [setAccessor]
  split
  · next oldGet oldSet found =>
    obtain ⟨hg', hs'⟩ := allWithin_append.1 (allWithin_property h found)
    have both : AllWithin n (Property.accessor (get.or oldGet) (set.or oldSet)).values :=
      allWithin_append.2 ⟨first hg hg', first hs hs'⟩
    exact allWithin_put h both key true
  · have both : AllWithin n (Property.accessor get set).values := allWithin_append.2 ⟨hg, hs⟩
    exact allWithin_put h both key true

theorem allWithin_erase (h : AllWithin n o.values) (key : String) : AllWithin n (o.erase key).values := by
  obtain ⟨proto, slots⟩ := allWithin_values.1 h
  exact allWithin_values.2 ⟨proto, fun s hs => slots s (Table.mem_values_of_erase hs)⟩

end Object

/-! ### Closed machines -/

/-- Whether all objects are there that values on a heap stand for. -/
structure Heap.Closed (h : Heap) : Prop where
  enough : firstObjects ≤ h.objects.size
  objects : ∀ o ∈ h.objects, AllWithin h.objects.size o.values
  arrays : ∀ items ∈ h.arrays, AllWithin h.objects.size items.toList
  functions : ∀ f ∈ h.functions, AllWithin h.objects.size f.values

/-- Whether a machine has all objects that some values stand for. -/
def Knows (m : Machine σ) (vs : List Value) : Prop := AllWithin m.heap.objects.size vs

/-- Whether a machine has all objects that its values stand for, those that its host holds included. -/
structure Closed (held : σ → List Value) (m : Machine σ) : Prop where
  heap : m.heap.Closed
  frames : ∀ g ∈ m.frames, m.Knows g.values
  host : m.Knows (held m.host)

namespace Heap.Closed

variable {h : Heap} (closed : h.Closed)

include closed

theorem object (r : ObjectRef) : AllWithin h.objects.size (h.object r).values := by
  rw [Heap.object]
  cases found : h.objects[r.index]? with
  | none => exact allWithin_nil
  | some o => exact closed.objects o (Array.mem_of_getElem? found)

theorem array (r : ArrayRef) : AllWithin h.objects.size (h.array r).toList := by
  rw [Heap.array]
  cases found : h.arrays[r.index]? with
  | none => exact allWithin_nil
  | some items => exact closed.arrays items (Array.mem_of_getElem? found)

theorem function (r : FunctionRef) : AllWithin h.objects.size (h.function r).values := by
  rw [Heap.function]
  cases found : h.functions[r.index]? with
  | none => exact allWithin_nil
  | some f => exact closed.functions f (Array.mem_of_getElem? found)

theorem lookup? {r : ObjectRef} {key : String} {p : Property} (found : h.lookup? r key = some p) :
    AllWithin h.objects.size p.values := by
  obtain ⟨r, -, own⟩ := List.exists_of_findSome?_eq_some found
  exact Object.allWithin_property (closed.object r) own

theorem prototypeOf? (v : Value) : AllWithin h.objects.size ((h.prototypeOf? v).map Value.object).toList := by
  have first (r : ObjectRef) (early : r.index < firstObjects) : AllWithin h.objects.size [.object r] := by
    intro w hw
    obtain rfl := List.mem_singleton.1 hw
    exact Nat.lt_of_lt_of_le early closed.enough
  cases v with
  | undefined | null => exact allWithin_nil
  | object r => exact (allWithin_append.1 (closed.object r)).1
  | _ => exact first _ (by decide)

/-- What a bound function adds to the arguments is there. -/
theorem unbound (r : FunctionRef) {args : List Value} (known : AllWithin h.objects.size args) :
    AllWithin h.objects.size (h.unbound r args).2 := by
  rw [Heap.unbound]
  generalize h.functions.size = n
  induction n generalizing r args with
  | zero => exact known
  | succ n ih =>
    rw [Heap.unboundWithin]
    split
    · next target this more kind =>
      have own := (allWithin_append.1 (closed.function r)).1
      rw [kind] at own
      exact ih target (allWithin_append.2 ⟨(allWithin_cons.1 own).2, known⟩)
    · exact known

end Heap.Closed

theorem Closed.frame {held : σ → List Value} {m : Machine σ} (closed : m.Closed held) (r : FrameRef) :
    m.Knows (m.frame r).values := by
  rw [Machine.frame]
  cases found : m.frames[r.index]? with
  | none => exact allWithin_nil
  | some g => exact closed.frames g (Array.mem_of_getElem? found)

/-! ### Heaps that grow -/

/-- Whether the prototype of each object is an older object. -/
def Heap.Ordered (h : Heap) : Prop := ∀ r p, (h.object r).proto = some p → p.index < r.index

/-- Whether a heap may come of another one on which no prototype is set: the old objects keep their prototypes, and new
objects have older ones. -/
structure Heap.Grows (h h' : Heap) : Prop where
  size : h.objects.size ≤ h'.objects.size
  old : ∀ r, r.index < h.objects.size → (h'.object r).proto = (h.object r).proto
  new : ∀ r p, h.objects.size ≤ r.index → (h'.object r).proto = some p → p.index < r.index

namespace Heap.Grows

variable {h h₁ h₂ : Heap}

theorem trans (first : h.Grows h₁) (second : h₁.Grows h₂) : h.Grows h₂ := by
  refine ⟨first.size.trans second.size, fun r early => ?_, fun r p late linked => ?_⟩
  · exact (second.old r (Nat.lt_of_lt_of_le early first.size)).trans (first.old r early)
  · rcases Nat.lt_or_ge r.index h₁.objects.size with between | later
    · rw [second.old r between] at linked
      exact first.new r p late linked
    · exact second.new r p later linked

theorem ordered (grows : h.Grows h₁) (ordered : h.Ordered) : h₁.Ordered := by
  intro r p linked
  rcases Nat.lt_or_ge r.index h.objects.size with early | late
  · rw [grows.old r early] at linked
    exact ordered r p linked
  · exact grows.new r p late linked

/-- Nothing changes in the prototypes of a heap. -/
theorem of_proto_eq (size : h₁.objects.size = h.objects.size)
    (proto : ∀ r, (h₁.object r).proto = (h.object r).proto) : h.Grows h₁ := by
  refine ⟨size.ge, fun r _ => proto r, fun r p late linked => ?_⟩
  have missing : h.objects[r.index]? = none := Array.getElem?_eq_none late
  rw [proto, Heap.object, missing] at linked
  cases linked

theorem of_objects_eq (same : h₁.objects = h.objects) : h.Grows h₁ :=
  of_proto_eq (congrArg Array.size same) fun r => by rw [Heap.object, Heap.object, same]

theorem refl (h : Heap) : h.Grows h := of_objects_eq rfl

/-- A new object has a prototype that is there. -/
theorem addObject {o : Object} (known : AllWithin h.objects.size o.values) : h.Grows (h.addObject o).2 := by
  refine ⟨?_, fun r early => ?_, fun r p late linked => ?_⟩
  · simp [Heap.addObject]
  · rw [Heap.object, Heap.object, Heap.addObject, Array.getElem?_push_lt early, Array.getElem?_eq_getElem early]
  · rw [Heap.object, Heap.addObject] at linked
    dsimp only at linked
    rw [Array.getElem?_push] at linked
    split at linked
    · next here =>
      rw [here]
      exact (Object.allWithin_values.1 known).1 p linked
    · have missing : h.objects[r.index]? = none := Array.getElem?_eq_none late
      rw [missing] at linked
      cases linked

end Heap.Grows

/-! ### Changes of a heap -/

section

variable {α : Type} {xs : Array α} {p : α → Prop} {f : α → α}

theorem forall_mem_modify (all : ∀ x ∈ xs, p x) (i : Nat) (hf : ∀ x, p x → p (f x)) : ∀ x ∈ xs.modify i f, p x := by
  intro x hx
  obtain ⟨j, found⟩ := Array.getElem?_of_mem hx
  rw [Array.getElem?_modify] at found
  split at found
  · obtain ⟨y, hy, rfl⟩ := Option.map_eq_some_iff.1 found
    exact hf y (all y (Array.mem_of_getElem? hy))
  · exact all x (Array.mem_of_getElem? found)

theorem forall_mem_push (all : ∀ x ∈ xs, p x) {new : α} (hn : p new) : ∀ x ∈ xs.push new, p x := by
  intro x hx
  rcases Array.mem_push.1 hx with old | rfl
  · exact all x old
  · exact hn

end

namespace Heap.Closed

variable {h : Heap} (closed : h.Closed)

include closed

theorem modifyObject (r : ObjectRef) {f : Object → Object}
    (hf : ∀ o, AllWithin h.objects.size o.values → AllWithin h.objects.size (f o).values) :
    (h.modifyObject r f).Closed := by
  have size : (h.modifyObject r f).objects.size = h.objects.size := Array.size_modify
  refine ⟨?_, ?_, ?_, ?_⟩
  · rw [size]
    exact closed.enough
  · rw [size]
    exact forall_mem_modify closed.objects r.index hf
  · rw [size]
    exact closed.arrays
  · rw [size]
    exact closed.functions

theorem modifyArray (r : ArrayRef) {f : Array Value → Array Value}
    (hf : ∀ items : Array Value, AllWithin h.objects.size items.toList → AllWithin h.objects.size (f items).toList) :
    (h.modifyArray r f).Closed :=
  ⟨closed.enough, closed.objects, forall_mem_modify closed.arrays r.index hf, closed.functions⟩

theorem modifyProperties (r : FunctionRef) {f : Object → Object}
    (hf : ∀ o, AllWithin h.objects.size o.values → AllWithin h.objects.size (f o).values) :
    (h.modifyProperties r f).Closed := by
  have functions : ∀ g ∈ (h.modifyProperties r f).functions, AllWithin h.objects.size g.values := by
    refine forall_mem_modify (p := fun g : Function => AllWithin h.objects.size g.values)
      (f := fun g : Function => { g with properties := f g.properties }) closed.functions r.index fun g known => ?_
    obtain ⟨kind, properties⟩ := allWithin_append.1 known
    exact allWithin_append.2 ⟨kind, hf g.properties properties⟩
  exact ⟨closed.enough, closed.objects, closed.arrays, functions⟩

theorem setLastIndex (r : RegexRef) (n : Nat) : (h.setLastIndex r n).Closed :=
  ⟨closed.enough, closed.objects, closed.arrays, closed.functions⟩

theorem addObject {o : Object} (known : AllWithin h.objects.size o.values) : (h.addObject o).2.Closed := by
  have size : (h.addObject o).2.objects.size = h.objects.size + 1 := Array.size_push o
  have more : h.objects.size ≤ h.objects.size + 1 := Nat.le_succ _
  refine ⟨?_, ?_, ?_, ?_⟩
  · rw [size]
    exact closed.enough.trans more
  · rw [size]
    exact forall_mem_push (fun o ho => (closed.objects o ho).mono more) (known.mono more)
  · rw [size]
    exact fun items hi => (closed.arrays items hi).mono more
  · rw [size]
    exact fun f hf => (closed.functions f hf).mono more

theorem addArray {items : Array Value} (known : AllWithin h.objects.size items.toList) : (h.addArray items).2.Closed :=
  ⟨closed.enough, closed.objects, forall_mem_push closed.arrays known, closed.functions⟩

theorem addFunction {f : Function} (known : AllWithin h.objects.size f.values) : (h.addFunction f).2.Closed :=
  ⟨closed.enough, closed.objects, closed.arrays, forall_mem_push closed.functions known⟩

theorem addRegex (x : Pattern.Regex) : (h.addRegex x).2.Closed :=
  ⟨closed.enough, closed.objects, closed.arrays, closed.functions⟩

end Heap.Closed

/-- A change of an object that keeps its prototype. -/
theorem Heap.Grows.modifyObject (h : Heap) (r : ObjectRef) {f : Object → Object} (hf : ∀ o, (f o).proto = o.proto) :
    h.Grows (h.modifyObject r f) := by
  refine of_proto_eq Array.size_modify fun s => ?_
  rw [Heap.object, Heap.object, Heap.modifyObject, Array.getElem?_modify]
  split
  · cases h.objects[s.index]? with
    | none => rfl
    | some o => exact hf o
  · rfl

/-! ### The machine before any script has run -/

/-- Whether the prototype of each object is an older one, as a test. -/
def Heap.isOrdered (h : Heap) : Bool :=
  (List.range h.objects.size).all fun i => (h.object ⟨i⟩).proto.all (·.index < i)

theorem Heap.ordered_of_isOrdered {h : Heap} (checked : h.isOrdered = true) : h.Ordered := by
  intro r p linked
  rcases Nat.lt_or_ge r.index h.objects.size with there | missing
  · have here := List.all_eq_true.1 checked r.index (List.mem_range.2 there)
    rw [show (⟨r.index⟩ : ObjectRef) = r from rfl, linked] at here
    exact of_decide_eq_true here
  · rw [Heap.object, Array.getElem?_eq_none missing] at linked
    cases linked

theorem ordered_initial (s : σ) : (initial s).heap.Ordered := by
  have checked : Globals.initial.heap.isOrdered = true := by decide +kernel
  exact Heap.ordered_of_isOrdered checked

theorem closed_initial {held : σ → List Value} {s : σ} (known : AllWithin firstObjects (held s)) :
    (initial s).Closed held := by
  have enough : firstObjects ≤ Globals.initial.heap.objects.size := by decide +kernel
  have heap : Globals.initial.heap.Closed :=
    ⟨enough, by decide +kernel, by decide +kernel, by decide +kernel⟩
  have bindings : AllWithin Globals.initial.heap.objects.size Globals.initial.bindings.values := by decide +kernel
  refine ⟨heap, fun g hg => ?_, known.mono enough⟩
  obtain rfl : g = { kind := .global, bindings := Globals.initial.bindings } := List.mem_singleton.1 (Array.mem_def.1 hg)
  exact bindings

end ScriptCoverage.Machine
