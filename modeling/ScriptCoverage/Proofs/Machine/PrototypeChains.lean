import Mathlib.Logic.Relation
import Mathlib.Order.WellFounded
import ScriptCoverage.Machine.Initial
import ScriptCoverage.Proofs.Machine.DealingEvaluators

/-!
Prototype chains end. `Reached` covers all machines that come of a fresh one while scripts and code of hosts run, as
long as no code of a host replaces a prototype. Main statement: `prototype_chains_finite` — on these machines every
prototype is older than the object that it belongs to, so that loops along prototypes end, with what the bounded ones
of `Heap.chain` come to.
-/

namespace ScriptCoverage.Machine

variable {σ α : Type}

/-! ### Loops along prototypes -/

namespace Heap

/-- Whether an object is the prototype of another one. -/
def IsPrototypeOf (h : Heap) (p r : ObjectRef) : Prop := (h.object r).proto = some p

/-- What a loop along prototypes visits that nothing bounds. -/
inductive Walk (h : Heap) : Option ObjectRef → List ObjectRef → Prop
  | ended : Walk h none []
  | onward {r : ObjectRef} {rs : List ObjectRef} (rest : Walk h (h.object r).proto rs) : Walk h (some r) (r :: rs)

/-- What a search along prototypes gives that nothing bounds: what it finds on the first object that has it. -/
inductive Search {β : Type} (h : Heap) (find : ObjectRef → Option β) : Option ObjectRef → Option β → Prop
  | ended : Search h find none none
  | found {r : ObjectRef} {b : β} (here : find r = some b) : Search h find (some r) (some b)
  | onward {r : ObjectRef} {b : Option β} (missed : find r = none) (rest : Search h find (h.object r).proto b) :
    Search h find (some r) b

variable {h : Heap}

/-- A search ends if the loop along all prototypes does. -/
theorem Walk.search {start : Option ObjectRef} {rs : List ObjectRef} (walk : h.Walk start rs) {β : Type}
    (find : ObjectRef → Option β) : h.Search find start (rs.findSome? find) := by
  induction walk with
  | ended => exact .ended
  | @onward r rs rest ih =>
    rw [List.findSome?_cons]
    cases here : find r with
    | some b => exact .found here
    | none => exact .onward here ih

/-- Where prototypes are older, a bound that is above the first object is never met. -/
theorem Ordered.walk_chainWithin (ordered : h.Ordered) (n : Nat) (start : Option ObjectRef)
    (below : ∀ r, start = some r → r.index < n) : h.Walk start (h.chainWithin n start) := by
  induction n generalizing start with
  | zero =>
    cases start with
    | none => exact .ended
    | some r => exact absurd (below r rfl) (Nat.not_lt_zero _)
  | succ n ih =>
    cases start with
    | none => exact .ended
    | some r =>
      refine .onward (ih _ fun p linked => ?_)
      exact Nat.lt_of_lt_of_le (ordered r p linked) (Nat.le_of_lt_succ (below r rfl))

/-- The bound on chains is never met. -/
theorem Ordered.walk_chain (ordered : h.Ordered) (closed : h.Closed) (start : Option ObjectRef) :
    h.Walk start (h.chain start) := by
  have inhabited : 0 < h.objects.size := Nat.lt_of_lt_of_le (by decide) closed.enough
  cases start with
  | none => exact ordered.walk_chainWithin _ none nofun
  | some r =>
    rcases Nat.lt_or_ge r.index h.objects.size with there | missing
    · refine ordered.walk_chainWithin _ (some r) fun s same => ?_
      obtain rfl := Option.some.inj same
      exact there
    · -- A place without an object counts as an object without a prototype.
      have alone : (h.object r).proto = none := by
        rw [Heap.object, Array.getElem?_eq_none missing]
        rfl
      obtain ⟨n, size⟩ := Nat.exists_eq_add_of_lt inhabited
      rw [chain, size, chainWithin, alone]
      refine .onward ?_
      rw [alone]
      cases n <;> exact .ended

theorem Ordered.wellFounded (ordered : h.Ordered) : WellFounded h.IsPrototypeOf :=
  Subrelation.wf (fun {p r} linked => ordered r p linked) (measure ObjectRef.index).wf

theorem Ordered.acyclic (ordered : h.Ordered) (r : ObjectRef) : ¬ Relation.TransGen h.IsPrototypeOf r r := fun cycle =>
  ordered.wellFounded.transGen.asymmetric r r cycle cycle

/-- A list has an object iff the search for it finds it. -/
theorem contains_eq_isSome_findSome? (rs : List ObjectRef) (target : ObjectRef) :
    rs.contains target = (rs.findSome? fun r => if r = target then some r else none).isSome := by
  induction rs with
  | nil => rfl
  | cons r rs ih =>
    rw [List.contains_cons, List.findSome?_cons, ih]
    by_cases same : r = target
    · subst same
      simp
    · have other : (target == r) = false := beq_false_of_ne (Ne.symm same)
      rw [other, if_neg same]
      rfl

end Heap

/-! ### Code of hosts -/

variable (held : σ → List Value)

/-- Code of a host that replaces no prototypes, which is given some values and gives others. It may make objects whose
prototypes are among the values that it knows, change what objects, arrays, functions and names hold, register modules,
look at the whole machine, fail and go on behind errors, and ask the machine for anything, as a host whose functions are
such code again. The values that it uses are known to it, and those that it keeps are in the state of the host. -/
inductive NeverRelinks : {α : Type} → List Value → (α → List Value) → Run σ α → Prop
  | pure {α : Type} {vs : List Value} {gives : α → List Value} (a : α) [Covers vs (gives a)] :
    NeverRelinks vs gives (pure a)
  | bind {α β : Type} {vs : List Value} {gives : α → List Value} {gives' : β → List Value} {x : Run σ α} {f : α → Run σ β}
    (first : NeverRelinks vs gives x) (next : ∀ a, NeverRelinks (gives a ++ vs) gives' (f a)) :
    NeverRelinks vs gives' (x >>= f)
  | fail {α : Type} {vs : List Value} {gives : α → List Value} (e : RuntimeError) [Covers vs e.values] :
    NeverRelinks vs gives (Run.fail e)
  | stop {α : Type} {vs : List Value} {gives : α → List Value} : NeverRelinks vs gives (throw .stopped)
  | attempt {α : Type} {vs : List Value} {gives : α → List Value} {x : Run σ α} (h : NeverRelinks vs gives x) :
    NeverRelinks vs (resultValues gives) (Run.attempt x)
  | look {α : Type} {vs : List Value} {gives : α → List Value} (f : Machine σ → α)
    (seen : ∀ m : Machine σ, m.Closed held → m.Knows vs → m.Knows (gives (f m))) :
    NeverRelinks vs gives (fun m => .ok (f m) m)
  | note {vs : List Value} {f : σ → σ} (known : ∀ s, Covers (held s ++ vs) (held (f s))) :
    NeverRelinks vs (fun _ => []) (Run.note f)
  | log {vs : List Value} (line : String) : NeverRelinks vs (fun _ => []) (Run.log line)
  | newObject {vs : List Value} (o : Object) [Covers vs o.values] : NeverRelinks vs ([·]) (Run.newObject o)
  | newArray {vs : List Value} (items : List Value) [Covers vs items] : NeverRelinks vs ([·]) (Run.newArray items)
  | newFunction {vs : List Value} (f : Function) [Covers vs f.values] : NeverRelinks vs ([·]) (Run.newFunction f)
  | newRegex {vs : List Value} (source flags : String) : NeverRelinks vs ([·]) (Run.newRegex source flags)
  | changeObject {vs : List Value} (r : ObjectRef) {f : Object → Object} (proto : ∀ o, (f o).proto = o.proto)
    (known : ∀ n o, AllWithin n vs → AllWithin n o.values → AllWithin n (f o).values) :
    NeverRelinks vs (fun _ => []) (Run.change (·.modifyObject r f))
  | changeArray {vs : List Value} (r : ArrayRef) {f : Array Value → Array Value}
    (known : ∀ n (items : Array Value), AllWithin n vs → AllWithin n items.toList → AllWithin n (f items).toList) :
    NeverRelinks vs (fun _ => []) (Run.change (·.modifyArray r f))
  | changeProperties {vs : List Value} (r : FunctionRef) {f : Object → Object}
    (known : ∀ n o, AllWithin n vs → AllWithin n o.values → AllWithin n (f o).values) :
    NeverRelinks vs (fun _ => []) (Run.change (·.modifyProperties r f))
  | setLastIndex {vs : List Value} (r : RegexRef) (n : Nat) :
    NeverRelinks vs (fun _ => []) (Run.change (·.setLastIndex r n))
  | changeBindings {vs : List Value} (r : FrameRef) {f : Table Value → Table Value}
    (known : ∀ n t, AllWithin n vs → AllWithin n t.values → AllWithin n (f t).values) :
    NeverRelinks vs (fun _ => []) (modify (·.modifyBindings r f))
  | register {vs : List Value} (key : String) (f : Module.Factory) : NeverRelinks vs (fun _ => []) (modify (·.register key f))
  | ask {vs : List Value} {host : Host σ}
    (call : ∀ f this args, NeverRelinks (this :: args) ([·]) (host.call f this args))
    (begins : ∀ scope s, NeverRelinks [] (fun _ => []) (host.begins scope s))
    (loads : ∀ e s, Covers (held s) (held (host.loads e s))) (waits : Machine σ → Bool) (n : Nat) (t : Task)
    [Covers vs t.values] : NeverRelinks vs ([·]) (t.run (Evaluator.watched host waits n))

/-- Machines that come of a fresh one by code of the host that replaces no prototypes, at any moment while it runs. -/
inductive Reached : Machine σ → Prop
  | fresh (s : σ) (known : AllWithin firstObjects (held s)) : Reached (initial s)
  | ran {α : Type} {m : Machine σ} (before : Reached m) {vs : List Value} {gives : α → List Value} {x : Run σ α}
    (code : NeverRelinks held vs gives x) (known : m.Knows vs) : Reached (machineOf (x m))

variable {held}

/-- All code of a host that replaces no prototypes deals in objects that exist. -/
theorem NeverRelinks.deals {vs : List Value} {gives : α → List Value} {x : Run σ α} (code : NeverRelinks held vs gives x) :
    Deals held vs gives x := by
  induction code with
  | pure a => exact .pure a
  | bind _ _ first next => exact .bind first next
  | fail e => exact (Deals.failing e).of
  | stop => exact fun m closed _ => .stopped m closed.onward
  | attempt _ h => exact .attempt h
  | look f seen => exact .look seen
  | note known => exact .note known
  | log line => exact .log line
  | newObject o => exact (Deals.newObject o).of
  | newArray items => exact (Deals.newArray items).of
  | newFunction f => exact (Deals.newFunction f).of
  | newRegex source flags => exact .newRegex source flags
  | changeObject r proto known => exact .changeObject r proto known
  | changeArray r known => exact .changeArray r known
  | changeProperties r known => exact .changeProperties r known
  | setLastIndex r n => exact .setLastIndex r n
  | changeBindings r known => exact .changeBindings r known
  | register key f => exact .still fun _ => ⟨rfl, rfl, rfl⟩
  | ask _ _ loads waits n t call begins =>
    have host : Host.Deals held _ := ⟨call, begins, loads⟩
    exact (Deals.task (host.evaluators waits n) t).of

/-- A machine that is reached has all objects that its values stand for, and prototypes are older. -/
theorem Reached.ordered {m : Machine σ} (reached : Reached held m) : m.Closed held ∧ m.heap.Ordered := by
  induction reached with
  | fresh s known => exact ⟨closed_initial known, ordered_initial s⟩
  | ran _ code known ih =>
    have on := (code.deals _ ih.1 known).onward
    exact ⟨on.closed, on.grows.ordered ih.2⟩

/-- Prototype chains are finite at every moment. Places count objects in the order in which they are made, and the
prototype of an object was made before it, so the relation between prototypes and objects is well founded and has no
cycles. The search for a property ends from every object, with what `lookup?` and `has` give; so does the search of
`instanceof` for an object from every value, and the loop that collects keys from every value, which visits all
prototypes. -/
theorem prototype_chains_finite {m : Machine σ} (reached : Reached held m) :
    let h := m.heap
    (∀ r p, h.IsPrototypeOf p r → p.index < r.index) ∧
    WellFounded h.IsPrototypeOf ∧
    (∀ r, ¬ Relation.TransGen h.IsPrototypeOf r r) ∧
    (∀ r key, h.Search (fun p => (h.object p).property? key) (some r) (h.lookup? r key) ∧
      h.has r key = (h.lookup? r key).isSome) ∧
    (∀ v target, ∃ found, h.Search (fun p => if p = target then some p else none) (h.prototypeOf? v) found ∧
      (h.chain (h.prototypeOf? v)).contains target = found.isSome) ∧
    (∀ v, ∃ ps, h.Walk (if v matches .object _ then h.prototypeOf? v else none) ps ∧
      h.loopKeys v = ps.foldl (fun seen p => Heap.addKeys seen (h.object p).enumerableKeys) ((h.ownKeys? v).getD [])) := by
  intro h
  obtain ⟨closed, ordered⟩ := reached.ordered
  have walk (start : Option ObjectRef) : h.Walk start (h.chain start) := ordered.walk_chain closed.heap start
  refine ⟨fun r p linked => ordered r p linked, ordered.wellFounded, ordered.acyclic, ?_, ?_, fun v => ?_⟩
  · intro r key
    exact ⟨(walk (some r)).search _, rfl⟩
  · intro v target
    exact ⟨_, (walk (h.prototypeOf? v)).search _, Heap.contains_eq_isSome_findSome? _ target⟩
  · cases v with
    | object r => exact ⟨_, walk (h.object r).proto, rfl⟩
    | _ => exact ⟨[], .ended, rfl⟩

/-! ### An example with a function of a host -/

namespace Inheriting

/-- A host with a function that makes an object with a given prototype. -/
def host : Host Unit where
  call _ _ args := match Value.argument args 0 with
    | .object r => Run.newObject { proto := some r }
    | _ => Run.refuse .createPrototype

theorem neverRelinks (f : HostFunction) (this : Value) (args : List Value) :
    NeverRelinks (fun _ => []) (this :: args) ([·]) (host.call f this args) := by
  have given : Known (this :: args) (Value.argument args 0) := inferInstance
  unfold host
  dsimp only
  cases found : Value.argument args 0 with
  | object r =>
    rw [found] at given
    exact .newObject _
  | _ => exact .fail _

/-- Gives the function a global name. -/
def expose : Run Unit Unit := do
  let f ← Run.newFunction { name := "extend", kind := .native (.host (.named "extend")) }
  modify (·.bind globalFrame "extend" f)

/-- A script that puts new objects in front of the prototype of a function. -/
def script : String :=
  "function F() \x7b\x7d F.prototype.kind = 'old'; F.prototype = extend(new F()); new F();"

/-- The machine behind the script. -/
def machine : Machine Unit :=
  machineOf ((Task.eval script).run (Evaluator.watched host (fun _ => false) 20) (machineOf (expose (initial ()))))

theorem reached : Reached (fun _ => []) machine := by
  have exposed : NeverRelinks (fun _ : Unit => []) [] (fun _ => []) expose :=
    .bind (.newFunction _) fun f => .changeBindings globalFrame fun _ _ known all =>
      allWithin_values_put all (known f List.mem_cons_self) "extend"
  have ran : NeverRelinks (fun _ : Unit => []) [] ([·]) ((Task.eval script).run (Evaluator.watched host (fun _ => false) 20)) :=
    .ask neverRelinks (fun _ _ => .pure _) (fun _ _ => inferInstance) _ 20 (.eval script)
  exact .ran (.ran (.fresh () allWithin_nil) exposed allWithin_nil) ran allWithin_nil

end Inheriting

open Inheriting in
/-- What the script makes last has four prototypes, each older than the one before, and inherits from the last but one. -/
theorem prototype_chains_finite_inheriting :
    machine.heap.chain (some ⟨15⟩) = [⟨15⟩, ⟨14⟩, ⟨13⟩, ⟨12⟩, objectPrototype] ∧
    machine.heap.Search (fun p => (machine.heap.object p).property? "kind") (some ⟨15⟩) (some (.data (.string "old"))) ∧
    WellFounded machine.heap.IsPrototypeOf := by
  have chain : machine.heap.chain (some ⟨15⟩) = [⟨15⟩, ⟨14⟩, ⟨13⟩, ⟨12⟩, objectPrototype] := by decide +kernel
  have given : machine.heap.lookup? ⟨15⟩ "kind" = some (.data (.string "old")) := by decide +kernel
  obtain ⟨-, founded, -, searches, -⟩ := prototype_chains_finite reached
  have search := (searches ⟨15⟩ "kind").1
  rw [given] at search
  exact ⟨chain, search, founded⟩

end ScriptCoverage.Machine
