import ScriptCoverage.Proofs.Machine.Chains
import ScriptCoverage.Proofs.Machine.OwnCode

/-!
Functions that bind functions that bind others. `BindChain` says how such a function came to be, by calls of `bind` with
anything between them; `Heap.Binds` is what is left of that in the heap. Main statement: `bind_chain_collapses` — the
function is as the one at the bottom of the chain with the first receiver and all arguments in their order.
-/

namespace ScriptCoverage.Machine

variable {σ : Type}

/-- The arguments that a chain of bindings provides. Each call of `bind` was given a receiver in front of them. -/
def boundArgs (bs : List (List Value)) : List Value := bs.flatMap (·.drop 1)

/-- The receiver that a chain of bindings provides, which is the one that the first call of `bind` was given. -/
def boundReceiver (this : Value) : List (List Value) → Value
  | [] => this
  | b :: _ => Value.argument b 0

theorem boundArgs_concat (bs : List (List Value)) (b : List Value) : boundArgs (bs ++ [b]) = boundArgs bs ++ b.drop 1 := by
  rw [boundArgs, List.flatMap_append, List.flatMap_singleton]
  rfl

theorem boundReceiver_concat (this : Value) (bs : List (List Value)) (b : List Value) :
    boundReceiver this (bs ++ [b]) = boundReceiver (Value.argument b 0) bs := by
  cases bs <;> rfl

namespace Heap

/-! ### Chains of bindings -/

/-- Whether a function is bound to another one. -/
def IsBound (h : Heap) (r : FunctionRef) : Prop := ∃ g this args, (h.function r).kind = .bound g this args

/-- Whether a function comes of another one by calls of `bind` with some lists of arguments, the first one at the
bottom. -/
inductive Binds (h : Heap) (f : FunctionRef) : List (List Value) → FunctionRef → Prop
  | bottom : Binds h f [] f
  | bound {bs : List (List Value)} {b : List Value} {g r : FunctionRef} (below : Binds h f bs g)
    (kind : (h.function r).kind = .bound g (Value.argument b 0) (b.drop 1)) : Binds h f (bs ++ [b]) r

/-- Whether all functions are still there and of the kinds that they were made with. -/
structure KeepsKinds (h h' : Heap) : Prop where
  size : h.functions.size ≤ h'.functions.size
  kind : ∀ r, r.index < h.functions.size → (h'.function r).kind = (h.function r).kind

variable {h : Heap} {f r : FunctionRef} {bs : List (List Value)}

theorem IsBound.index_lt (bound : h.IsBound r) : r.index < h.functions.size := by
  obtain ⟨g, this, args, kind⟩ := bound
  refine Nat.lt_of_not_le fun missing => ?_
  rw [function, Array.getElem?_eq_none missing] at kind
  cases kind

namespace Binds

theorem index_lt (chain : h.Binds f bs r) (there : f.index < h.functions.size) : r.index < h.functions.size := by
  cases chain with
  | bottom => exact there
  | bound _ kind => exact IsBound.index_lt ⟨_, _, _, kind⟩

theorem keeps {h' : Heap} (chain : h.Binds f bs r) (keeps : h.KeepsKinds h') : h'.Binds f bs r := by
  induction chain with
  | bottom => exact .bottom
  | bound _ kind ih => exact .bound ih ((keeps.kind _ (IsBound.index_lt ⟨_, _, _, kind⟩)).trans kind)

/-! ### How long they are -/

section

variable (free : ¬ h.IsBound f)

include free

theorem length_unique {bs' : List (List Value)} (chain : h.Binds f bs r) (other : h.Binds f bs' r) :
    bs.length = bs'.length := by
  induction chain generalizing bs' with
  | bottom =>
    cases other with
    | bottom => rfl
    | bound _ kind => exact absurd ⟨_, _, _, kind⟩ free
  | bound _ kind ih =>
    cases other with
    | bottom => exact absurd ⟨_, _, _, kind⟩ free
    | bound below kind' =>
      rw [kind] at kind'
      injection kind' with same
      subst same
      rw [List.length_append, List.length_append, ih below]
      rfl

/-- The functions of a chain, no two of them the same. -/
theorem exists_members (chain : h.Binds f bs r) (there : f.index < h.functions.size) :
    ∃ rs : List FunctionRef, rs.length = bs.length + 1 ∧ rs.Nodup ∧
      ∀ s ∈ rs, s.index < h.functions.size ∧ ∃ bs', h.Binds f bs' s ∧ bs'.length ≤ bs.length := by
  induction chain with
  | bottom =>
    refine ⟨[f], rfl, List.nodup_singleton f, fun s hs => ?_⟩
    obtain rfl := List.mem_singleton.1 hs
    exact ⟨there, [], .bottom, le_rfl⟩
  | @bound bs b g r below kind ih =>
    obtain ⟨rs, length, distinct, members⟩ := ih
    have top : h.Binds f (bs ++ [b]) r := .bound below kind
    have longer : (bs ++ [b]).length = bs.length + 1 := List.length_append
    refine ⟨r :: rs, by rw [List.length_cons, length, longer], List.nodup_cons.2 ⟨fun again => ?_, distinct⟩, ?_⟩
    · obtain ⟨-, bs', chain, le⟩ := members r again
      rw [← top.length_unique free chain, longer] at le
      exact absurd le (Nat.not_succ_le_self _)
    · refine List.forall_mem_cons.2 ⟨⟨top.index_lt there, _, top, le_rfl⟩, fun s hs => ?_⟩
      obtain ⟨index, bs', chain, le⟩ := members s hs
      exact ⟨index, bs', chain, by omega⟩

/-- No chain is as long as there are functions. -/
theorem length_lt (chain : h.Binds f bs r) (there : f.index < h.functions.size) : bs.length < h.functions.size := by
  obtain ⟨rs, length, distinct, members⟩ := chain.exists_members free there
  have injective : FunctionRef.index.Injective := fun ⟨_⟩ ⟨_⟩ same => congrArg FunctionRef.mk same
  rw [Nat.lt_iff_add_one_le, ← length]
  exact length_le_of_nodup injective distinct fun s hs => (members s hs).1

end

/-! ### What is asked of the bottom -/

theorem isConstructorWithin_eq (chain : h.Binds f bs r) (n : Nat) :
    h.isConstructorWithin (n + bs.length) r = h.isConstructorWithin n f := by
  induction chain with
  | bottom => rfl
  | bound _ kind ih =>
    rw [List.length_append, List.length_singleton, ← Nat.add_assoc, isConstructorWithin, kind]
    exact ih

theorem arityWithin_eq (chain : h.Binds f bs r) (n : Nat) :
    h.arityWithin (n + bs.length) r = h.arityWithin n f - (boundArgs bs).length := by
  induction chain with
  | bottom => rfl
  | @bound bs b _ _ _ kind ih =>
    rw [List.length_append, List.length_singleton, ← Nat.add_assoc, arityWithin, kind]
    calc h.arityWithin (n + bs.length) _ - (b.drop 1).length
        = h.arityWithin n f - (boundArgs bs).length - (b.drop 1).length := by rw [ih]
      _ = h.arityWithin n f - (boundArgs (bs ++ [b])).length := by
        rw [boundArgs_concat, List.length_append, Nat.sub_sub]

/-- The nearer of two bindings puts its arguments behind those of the other one. -/
theorem unboundWithin_eq (chain : h.Binds f bs r) (n : Nat) (args : List Value) :
    h.unboundWithin (n + bs.length) r args = h.unboundWithin n f (boundArgs bs ++ args) := by
  induction chain generalizing args with
  | bottom => rfl
  | @bound bs b _ _ _ kind ih =>
    rw [List.length_append, List.length_singleton, ← Nat.add_assoc, unboundWithin, kind]
    calc h.unboundWithin (n + bs.length) _ (b.drop 1 ++ args)
        = h.unboundWithin n f (boundArgs bs ++ (b.drop 1 ++ args)) := ih _
      _ = h.unboundWithin n f (boundArgs (bs ++ [b]) ++ args) := by rw [boundArgs_concat, List.append_assoc]

end Binds

/-! ### With the bounds of the heap -/

section

variable (free : ¬ h.IsBound f)

include free

/-- One step is enough at a function that is not bound. -/
theorem isConstructorWithin_of_free (n n' : Nat) : h.isConstructorWithin (n + 1) f = h.isConstructorWithin (n' + 1) f := by
  rw [isConstructorWithin, isConstructorWithin]
  cases kind : (h.function f).kind with
  | script | native => rfl
  | bound => exact absurd ⟨_, _, _, kind⟩ free

theorem arityWithin_of_free (n n' : Nat) : h.arityWithin (n + 1) f = h.arityWithin (n' + 1) f := by
  rw [arityWithin, arityWithin]
  cases kind : (h.function f).kind with
  | script | native => rfl
  | bound => exact absurd ⟨_, _, _, kind⟩ free

theorem unboundWithin_of_free (n : Nat) (args : List Value) : h.unboundWithin n f args = (f, args) := by
  cases n with
  | zero => rfl
  | succ n =>
    rw [unboundWithin]
    cases kind : (h.function f).kind with
    | script | native => rfl
    | bound => exact absurd ⟨_, _, _, kind⟩ free

variable (there : f.index < h.functions.size) (chain : h.Binds f bs r)

include there chain

theorem exists_size : ∃ n n', h.functions.size = (n + 1) + bs.length ∧ h.functions.size = n' + 1 := by
  have lt := chain.length_lt free there
  exact ⟨h.functions.size - bs.length - 1, h.functions.size - 1, by omega, by omega⟩

theorem isConstructor_of_binds : h.isConstructor r = h.isConstructor f := by
  obtain ⟨n, n', size, size'⟩ := exists_size free there chain
  rw [isConstructor, isConstructor, size, chain.isConstructorWithin_eq, ← size, size']
  exact isConstructorWithin_of_free free n n'

theorem arity_of_binds : h.arity r = h.arity f - (boundArgs bs).length := by
  obtain ⟨n, n', size, size'⟩ := exists_size free there chain
  rw [arity, arity, size, chain.arityWithin_eq, ← size, size', arityWithin_of_free free n n']

theorem unbound_of_binds (args : List Value) : h.unbound r args = (f, boundArgs bs ++ args) := by
  obtain ⟨n, n', size, -⟩ := exists_size free there chain
  rw [unbound, size, chain.unboundWithin_eq, unboundWithin_of_free free]

end

end Heap

/-! ### Calls of `bind` -/

/-- A machine with one more function, which binds another one. -/
def withBinding (m : Machine σ) (r : FunctionRef) (b : List Value) : Machine σ :=
  let bound := { name := "bound " ++ (m.heap.function r).name, kind := .bound r (Value.argument b 0) (b.drop 1) }
  { m with heap := (m.heap.addFunction bound).2 }

theorem bind_eq (call : Caller σ) (m : Machine σ) (r : FunctionRef) (b : List Value) :
    Run.builtin call (.function r) b .bind m = .ok (.function ⟨m.heap.functions.size⟩) (m.withBinding r b) := rfl

/-- Whether a function came of another one, which is not bound, by calls of `bind` with some lists of arguments. Anything
may happen between the calls and behind the last one that leaves functions of their kinds. -/
inductive BindChain (f : FunctionRef) : Machine σ → List (List Value) → FunctionRef → Prop
  | bottom {m : Machine σ} (there : f.index < m.heap.functions.size) (free : ¬ m.heap.IsBound f) : BindChain f m [] f
  | bind {m m' : Machine σ} {bs : List (List Value)} {r r' : FunctionRef} {call : Caller σ} {b : List Value}
    (below : BindChain f m bs r) (ran : Run.builtin call (.function r) b .bind m = .ok (.function r') m') :
    BindChain f m' (bs ++ [b]) r'
  | later {m m' : Machine σ} {bs : List (List Value)} {r : FunctionRef} (before : BindChain f m bs r)
    (keeps : m.heap.KeepsKinds m'.heap) : BindChain f m' bs r

theorem function_withBinding_of_lt {m : Machine σ} {r s : FunctionRef} (b : List Value)
    (there : s.index < m.heap.functions.size) : (m.withBinding r b).heap.function s = m.heap.function s := by
  rw [Heap.function, Heap.function, withBinding, Heap.addFunction, Array.getElem?_push_lt there,
    Array.getElem?_eq_getElem there]

theorem keepsKinds_withBinding (m : Machine σ) (r : FunctionRef) (b : List Value) :
    m.heap.KeepsKinds (m.withBinding r b).heap where
  size := by
    rw [withBinding, Heap.addFunction, Array.size_push]
    exact Nat.le_succ _
  kind _ there := congrArg Function.kind (function_withBinding_of_lt b there)

theorem kind_withBinding (m : Machine σ) (r : FunctionRef) (b : List Value) :
    ((m.withBinding r b).heap.function ⟨m.heap.functions.size⟩).kind = .bound r (Value.argument b 0) (b.drop 1) := by
  rw [Heap.function, withBinding, Heap.addFunction, Array.getElem?_push_size]
  rfl

/-- A chain of calls of `bind` stays in the heap. -/
theorem BindChain.binds {f : FunctionRef} {m : Machine σ} {bs : List (List Value)} {r : FunctionRef}
    (chain : BindChain f m bs r) : f.index < m.heap.functions.size ∧ ¬ m.heap.IsBound f ∧ m.heap.Binds f bs r := by
  have kept {h h' : Heap} (keeps : h.KeepsKinds h') (there : f.index < h.functions.size) (free : ¬ h.IsBound f) :
      f.index < h'.functions.size ∧ ¬ h'.IsBound f := by
    refine ⟨Nat.lt_of_lt_of_le there keeps.size, ?_⟩
    rintro ⟨g, this, args, kind⟩
    exact free ⟨g, this, args, (keeps.kind f there).symm.trans kind⟩
  induction chain with
  | bottom there free => exact ⟨there, free, .bottom⟩
  | @bind m m' bs r r' call b _ ran ih =>
    obtain ⟨there, free, chain⟩ := ih
    rw [bind_eq] at ran
    injection ran with same machine
    injection same with same
    subst same machine
    have keeps := m.keepsKinds_withBinding r b
    obtain ⟨there, free⟩ := kept keeps there free
    exact ⟨there, free, .bound (chain.keeps keeps) (m.kind_withBinding r b)⟩
  | later _ keeps ih =>
    obtain ⟨there, free, chain⟩ := ih
    obtain ⟨there, free⟩ := kept keeps there free
    exact ⟨there, free, chain.keeps keeps⟩

/-! ### Calls of what is bound -/

theorem call_succ_of_bound (host : Host σ) {m : Machine σ} {r g : FunctionRef} {this : Value} {more : List Value}
    (kind : (m.heap.function r).kind = .bound g this more) (n : Nat) (own : Value) (args : List Value) :
    (Evaluator.ofFuel host (n + 1)).call (.function r) own args m =
      (Evaluator.ofFuel host n).call (.function g) this (more ++ args) m := by
  change (Evaluator.ofFuel host n).evalCall (.function r) own args m = _
  unfold Evaluator.evalCall
  dsimp only
  rw [Run.see_bind, kind]

/-- A call goes down to the bottom, one level for each binding. -/
theorem call_of_binds (host : Host σ) {m : Machine σ} {f r : FunctionRef} {bs : List (List Value)}
    (chain : m.heap.Binds f bs r) (n : Nat) (this : Value) (args : List Value) :
    (Evaluator.ofFuel host (n + bs.length)).call (.function r) this args m =
      (Evaluator.ofFuel host n).call (.function f) (boundReceiver this bs) (boundArgs bs ++ args) m := by
  induction chain generalizing this args with
  | bottom => rfl
  | @bound bs b g r _ kind ih =>
    rw [List.length_append, List.length_singleton, ← Nat.add_assoc, call_succ_of_bound host kind, ih, boundArgs_concat,
      boundReceiver_concat, List.append_assoc]

/-- There is no result before the bottom is reached. -/
theorem call_of_short_fuel (host : Host σ) {m : Machine σ} {f r : FunctionRef} {bs : List (List Value)}
    (chain : m.heap.Binds f bs r) {n : Nat} (short : n ≤ bs.length) (this : Value) (args : List Value) :
    (Evaluator.ofFuel host n).call (.function r) this args m = .error .outOfFuel m := by
  induction chain generalizing n this args with
  | bottom =>
    obtain rfl := Nat.le_zero.1 short
    rfl
  | bound _ kind ih =>
    cases n with
    | zero => rfl
    | succ n =>
      rw [List.length_append] at short
      rw [call_succ_of_bound host kind]
      exact ih (Nat.le_of_succ_le_succ short) _ _

/-- What `new` does depends on what is under the bindings. -/
theorem Evaluator.construct_eq_of_unbound_eq (ev : Evaluator σ) {m : Machine σ} {r r' : FunctionRef}
    {args args' : List Value} (constructs : m.heap.isConstructor r) (constructs' : m.heap.isConstructor r')
    (same : m.heap.unbound r args = m.heap.unbound r' args') :
    ev.construct (.function r) args m = ev.construct (.function r') args' m := by
  unfold construct
  dsimp only
  rw [Run.see_bind, Run.see_bind, if_pos constructs, if_pos constructs', Run.see_bind, Run.see_bind, same]

theorem Run.instanceOf_eq_of_unbound_eq (call : Caller σ) (v : Value) {m : Machine σ} {r r' : FunctionRef}
    (same : (m.heap.unbound r []).1 = (m.heap.unbound r' []).1) :
    instanceOf call v (.function r) m = instanceOf call v (.function r') m := by
  unfold instanceOf
  dsimp only
  rw [see_bind, see_bind, same]

/-- A chain of calls of `bind` collapses, of any length, over any function that is not bound itself, whether a script, the
host or nobody made it. The next call makes the chain one longer. A call of what comes of it has the results of a call of
the function at the bottom with the receiver that was bound first and the arguments that were bound, the first ones
first, in front of those of the call; it only nests deeper by the length of the chain. So does `new`, if it can be applied
to the function. The function that comes of the chain declares the parameters that are left, can be constructed iff the
one at the bottom can, and has the same instances. -/
theorem bind_chain_collapses {m : Machine σ} {f r : FunctionRef} {bs : List (List Value)} (chain : BindChain f m bs r) :
    (∀ (call : Caller σ) b, ∃ r' m', Run.builtin call (.function r) b .bind m = .ok (.function r') m' ∧
      BindChain f m' (bs ++ [b]) r') ∧
    (∀ (host : Host σ) n this args,
      (Evaluator.ofFuel host (n + bs.length)).call (.function r) this args m =
        (Evaluator.ofFuel host n).call (.function f) (boundReceiver this bs) (boundArgs bs ++ args) m) ∧
    (∀ (host : Host σ) this args result, (∀ m', result ≠ .error .outOfFuel m') →
      ((∃ n, (Evaluator.ofFuel host n).call (.function r) this args m = result) ↔
        ∃ n, (Evaluator.ofFuel host n).call (.function f) (boundReceiver this bs) (boundArgs bs ++ args) m = result)) ∧
    (m.heap.isConstructor f → ∀ (ev : Evaluator σ) args,
      ev.construct (.function r) args m = ev.construct (.function f) (boundArgs bs ++ args) m) ∧
    m.heap.arity r = m.heap.arity f - (boundArgs bs).length ∧
    m.heap.isConstructor r = m.heap.isConstructor f ∧
    ∀ (call : Caller σ) v, Run.instanceOf call v (.function r) m = Run.instanceOf call v (.function f) m := by
  obtain ⟨there, free, binds⟩ := chain.binds
  have constructor : m.heap.isConstructor r = m.heap.isConstructor f := Heap.isConstructor_of_binds free there binds
  have unbound (args : List Value) : m.heap.unbound r args = (f, boundArgs bs ++ args) :=
    Heap.unbound_of_binds free there binds args
  have bottom (args : List Value) : m.heap.unbound f args = (f, args) := Heap.unbound_of_binds free there .bottom args
  refine ⟨fun call b => ⟨_, _, bind_eq call m r b, .bind chain (bind_eq call m r b)⟩, fun host n this args =>
    call_of_binds host binds n this args, fun host this args result finished => ⟨?_, ?_⟩, fun constructs ev args => ?_,
    Heap.arity_of_binds free there binds, constructor, fun call v => ?_⟩
  · rintro ⟨n, ran⟩
    -- with less fuel than links the call runs out, which is no result
    rcases Nat.le_total n bs.length with short | enough
    · rw [call_of_short_fuel host binds short] at ran
      exact absurd ran.symm (finished m)
    · obtain ⟨k, rfl⟩ := Nat.exists_eq_add_of_le' enough
      exact ⟨k, (call_of_binds host binds k this args).symm.trans ran⟩
  · rintro ⟨n, ran⟩
    exact ⟨n + bs.length, (call_of_binds host binds n this args).trans ran⟩
  · refine ev.construct_eq_of_unbound_eq (constructor.trans constructs) constructs ?_
    rw [unbound, bottom]
  · refine Run.instanceOf_eq_of_unbound_eq call v ?_
    rw [unbound, bottom]

/-! ### A function that is bound twice -/

namespace BoundTwice

open Shadowing in
/-- The machine behind a script that makes a function, which is the last one. -/
def made : Machine Unit :=
  machineOf ((Task.eval "function F(a, b, c) \x7b return this + a + b + c; \x7d").run (Evaluator.ofFuel silent 20) (initial ()))

def bottom : FunctionRef := ⟨56⟩

/-- What the two calls of `bind` are given. -/
def first : List Value := [.string "t", .string "x"]
def second : List Value := [.string "u", .string "y"]

def machine : Machine Unit := (made.withBinding bottom first).withBinding ⟨57⟩ second

end BoundTwice

open BoundTwice in
open Shadowing (silent) in
/-- Calls keep the first receiver, and the arguments follow each other. -/
theorem bind_chain_collapses_twice :
    BindChain bottom machine [first, second] ⟨58⟩ ∧
    (∀ n, (Evaluator.ofFuel silent (n + 2)).call (.function ⟨58⟩) .null [.string "z"] machine =
      (Evaluator.ofFuel silent n).call (.function bottom) (.string "t") [.string "x", .string "y", .string "z"] machine) ∧
    value? ((Evaluator.ofFuel silent 20).call (.function ⟨58⟩) .null [.string "z"] machine) = some (.string "txyz") ∧
    machine.heap.isConstructor ⟨58⟩ ∧ machine.heap.arity ⟨58⟩ = 1 := by
  have there : bottom.index < made.heap.functions.size := by decide +kernel
  have free : ¬ made.heap.IsBound bottom := by
    rintro ⟨g, this, args, kind⟩
    have own : (made.heap.function bottom).kind.hasOwnPrototype = true := by decide +kernel
    rw [kind] at own
    cases own
  have chain : BindChain bottom machine [first, second] ⟨58⟩ := by
    have call : Caller Unit := fun _ _ _ => throw .stopped
    have size : made.heap.functions.size = 57 := by decide +kernel
    have size' : (made.withBinding bottom first).heap.functions.size = 58 := by decide +kernel
    have once := BindChain.bind (.bottom there free) (bind_eq call made bottom first)
    rw [size] at once
    have twice := once.bind (bind_eq call _ ⟨57⟩ second)
    rw [size'] at twice
    exact twice
  obtain ⟨-, calls, -, -, arity, constructor, -⟩ := bind_chain_collapses chain
  refine ⟨chain, fun n => calls silent n .null _, by decide +kernel, constructor.trans (by decide +kernel), arity.trans ?_⟩
  decide +kernel

end ScriptCoverage.Machine
