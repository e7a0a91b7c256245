import ScriptCoverage.Proofs.Machine.Chains
import ScriptCoverage.Proofs.Machine.ObjectHistories
import ScriptCoverage.Proofs.Machine.OwnCode

/-!
The keys that a loop over an object visits. `Heap.listing` lists the keys that some objects show, the nearest object
first, without those that a nearer object hides; what a nearer object hides is what it shows itself, or all that it has.
Main statements: `loop_keys_of_chain` — loops take the first reading, and which keys they visit beyond the second —
and `shadowed_key_visited`, such a key.
-/

namespace ScriptCoverage.Machine

variable {σ : Type}

/-- Whether an object has a property that enumerations show. -/
def Object.shows (o : Object) (key : String) : Bool := (o.slots.get? key).any Slot.enumerable

theorem Object.mem_enumerableKeys {o : Object} (distinct : o.keys.Nodup) {key : String} :
    key ∈ o.enumerableKeys ↔ o.shows key := by
  rw [enumerableKeys_eq distinct, List.mem_filter]
  refine and_iff_right_of_imp fun shown => (Table.contains_iff_mem _ _).1 ?_
  obtain ⟨s, found, -⟩ := (Option.any_eq_true _ _).1 shown
  rw [Table.contains, found]
  rfl

theorem Object.nodup_enumerableKeys {o : Object} (distinct : o.keys.Nodup) : o.enumerableKeys.Nodup := by
  rw [enumerableKeys_eq distinct]
  exact distinct.filter _

namespace Heap

/-! ### Listings -/

/-- The keys that some objects show, object by object, without those that a nearer object hides. -/
def listing (h : Heap) (hides : Object → String → Bool) : List ObjectRef → List String
  | [] => []
  | p :: ps => (h.object p).enumerableKeys ++ (h.listing hides ps).filter (!hides (h.object p) ·)

/-- What the nearest of some objects that has a property has. -/
def nearest? (h : Heap) (ps : List ObjectRef) (key : String) : Option Slot :=
  ps.findSome? fun p => (h.object p).slots.get? key

theorem addKeys_eq {seen keys : List String} (distinct : keys.Nodup) :
    addKeys seen keys = seen ++ keys.filter (!seen.contains ·) := by
  induction keys generalizing seen with
  | nil => exact (List.append_nil _).symm
  | cons key keys ih =>
    obtain ⟨new, distinct⟩ := List.nodup_cons.1 distinct
    have step : addKeys seen (key :: keys) = addKeys (if seen.contains key then seen else seen ++ [key]) keys := rfl
    rw [step, ih distinct]
    cases there : seen.contains key with
    | true => rw [if_pos rfl, List.filter_cons_of_neg (by rw [there]; nofun)]
    | false =>
      rw [if_neg nofun, List.filter_cons_of_pos (by rw [there]; rfl), List.append_assoc, List.singleton_append]
      congr 2
      refine List.filter_congr fun k hk => ?_
      have other : k ≠ key := fun same => new (same ▸ hk)
      simp [other]

variable {h : Heap} {r : ObjectRef} {ps : List ObjectRef} (distinct : ∀ p ∈ ps, (h.object p).keys.Nodup)

include distinct

/-- A walk that appends what it has not seen lists what no nearer object shows. -/
theorem foldl_addKeys (seen : List String) :
    ps.foldl (fun seen p => addKeys seen (h.object p).enumerableKeys) seen =
      seen ++ (h.listing Object.shows ps).filter (!seen.contains ·) := by
  induction ps generalizing seen with
  | nil => exact (List.append_nil _).symm
  | cons p ps ih =>
    obtain ⟨here, later⟩ := List.forall_mem_cons.1 distinct
    rw [List.foldl_cons, ih later, addKeys_eq (Object.nodup_enumerableKeys here), listing, List.filter_append,
      List.append_assoc, List.filter_filter]
    congr 2
    refine List.filter_congr fun key _ => ?_
    have shown : (h.object p).enumerableKeys.contains key = (h.object p).shows key :=
      Bool.eq_iff_iff.2 (List.contains_iff_mem.trans (Object.mem_enumerableKeys here))
    rw [← shown]
    simp only [List.contains_eq_mem, List.mem_append, List.mem_filter]
    grind

theorem mem_listing {key : String} : key ∈ h.listing Object.shows ps ↔ ∃ p ∈ ps, (h.object p).shows key := by
  induction ps with
  | nil => simp [listing]
  | cons p ps ih =>
    obtain ⟨here, later⟩ := List.forall_mem_cons.1 distinct
    rw [listing, List.mem_append, List.mem_filter, ih later, Object.mem_enumerableKeys here, List.exists_mem_cons_iff]
    cases (h.object p).shows key <;> simp

theorem nodup_listing : (h.listing Object.shows ps).Nodup := by
  induction ps with
  | nil => exact List.nodup_nil
  | cons p ps ih =>
    obtain ⟨here, later⟩ := List.forall_mem_cons.1 distinct
    refine List.nodup_append.2 ⟨Object.nodup_enumerableKeys here, (ih later).filter _, ?_⟩
    intro key shown other later same
    subst same
    have new := (List.mem_filter.1 later).2
    rw [(Object.mem_enumerableKeys here).1 shown] at new
    cases new

/-- The keys that no nearer object has are those that the nearest object with a property shows. -/
theorem listing_contains :
    h.listing Object.contains ps =
      (h.listing Object.shows ps).filter fun key => (h.nearest? ps key).any Slot.enumerable := by
  induction ps with
  | nil => rfl
  | cons p ps ih =>
    obtain ⟨here, later⟩ := List.forall_mem_cons.1 distinct
    rw [listing, listing, ih later, List.filter_append, List.filter_filter, List.filter_filter]
    congr 1
    · refine (List.filter_eq_self.2 fun key hk => ?_).symm
      obtain ⟨s, found, shown⟩ :=
        (Option.any_eq_true _ _).1 ((Object.mem_enumerableKeys here).1 hk)
      rw [nearest?, List.findSome?_cons, found]
      exact shown
    · refine List.filter_congr fun key _ => ?_
      rw [nearest?, nearest?, List.findSome?_cons, Object.contains, Table.contains, Object.shows]
      cases (h.object p).slots.get? key with
      | none => exact Bool.and_comm ..
      | some s => cases s.enumerable <;> simp

/-- The keys of an object with a chain that ends are listed by what nearer objects show. -/
theorem loopKeys_eq (walk : h.Walk (some r) ps) : h.loopKeys (.object r) = h.listing Object.shows ps := by
  cases walk with
  | @onward _ ps rest =>
    obtain ⟨here, later⟩ := List.forall_mem_cons.1 distinct
    rw [loopKeys, (Walk.onward rest).chain_eq, foldl_addKeys later, listing]
    congr 1
    refine List.filter_congr fun key _ => congrArg not ?_
    exact Bool.eq_iff_iff.2 (List.contains_iff_mem.trans (Object.mem_enumerableKeys here))

end Heap

/-! ### Loops -/

namespace Evaluator

variable (ev : Evaluator σ) (scope : Scope) (labels : List String) (receiver : Program.Receiver) (body : Program.Stmt)

/-- One round of a loop over keys, and how the loop ends if it ends with this round. -/
def keyRound (key : String) : Run σ (Option Completion) := do
  let inner ← ev.receive scope key receiver
  return (← ev.stmt inner [] body).endsLoop? labels

/-- A loop over keys goes from one to the next until a round ends it. -/
theorem forKeys_eq (keys : List String) : ev.forKeys scope labels receiver body keys = do
    return (← keys.findSomeM? (ev.keyRound scope labels receiver body)).getD .normal := by
  induction keys with
  | nil => rfl
  | cons key keys ih =>
    rw [forKeys, ih, List.findSomeM?, keyRound]
    simp only [bind_assoc, pure_bind]
    refine bind_congr fun inner => bind_congr fun c => ?_
    cases c.endsLoop? labels <;> simp

end Evaluator

/-- A loop over an object whose chain of prototypes ends, where no object has a key twice, as none has that is made by
changes. The loop visits, in rounds that follow each other until one ends the loop, every key once that some object of
the chain shows: the keys that the object shows in the order in which they came in, and then object by object those that
no nearer one shows. Among them are, in the same order, all keys that the nearest object with such a property shows, the
ones that no nearer object has; there are no others iff no key that a further object shows is hidden on the nearest. -/
theorem loop_keys_of_chain {h : Heap} {r : ObjectRef} {ps : List ObjectRef} (walk : h.Walk (some r) ps)
    (distinct : ∀ p ∈ ps, (h.object p).keys.Nodup) :
    let visited := h.loopKeys (.object r)
    let visible key := (h.nearest? ps key).any Slot.enumerable
    visited.Nodup ∧
    (∀ key, key ∈ visited ↔ ∃ p ∈ ps, (h.object p).shows key) ∧
    visited = h.listing Object.shows ps ∧
    (∀ key, visible key → key ∈ visited) ∧
    visited.filter visible = h.listing Object.contains ps ∧
    (visited = h.listing Object.contains ps ↔ ∀ p ∈ ps, ∀ key, (h.object p).shows key → visible key) ∧
    ∀ (ev : Evaluator σ) scope labels receiver right body m m',
      ev.expr scope right m = .ok (.object r) m' → m'.heap = h →
      ev.forIn scope labels receiver right body m =
        (do return (← visited.findSomeM? (ev.keyRound scope labels receiver body)).getD .normal : Run σ Completion) m' := by
  intro visited visible
  have listed : visited = h.listing Object.shows ps := Heap.loopKeys_eq distinct walk
  have members (key : String) : key ∈ visited ↔ ∃ p ∈ ps, (h.object p).shows key := by
    rw [listed]
    exact Heap.mem_listing distinct
  have seen : visited.filter visible = h.listing Object.contains ps := by
    rw [listed]
    exact (Heap.listing_contains distinct).symm
  refine ⟨?_, members, listed, fun key near => ?_, seen, ?_, fun ev scope labels receiver right body m m' value same => ?_⟩
  · rw [listed]
    exact Heap.nodup_listing distinct
  · obtain ⟨s, found, shown⟩ := (Option.any_eq_true _ _).1 near
    obtain ⟨p, hp, here⟩ := List.exists_of_findSome?_eq_some found
    exact (members key).2 ⟨p, hp, (Option.any_eq_true _ _).2 ⟨s, here, shown⟩⟩
  · rw [← seen, eq_comm, List.filter_eq_self]
    constructor
    · intro all p hp key shown
      exact all key ((members key).2 ⟨p, hp, shown⟩)
    · intro none_hidden key hk
      obtain ⟨p, hp, shown⟩ := (members key).1 hk
      exact none_hidden p hp key shown
  · rw [← Evaluator.forKeys_eq]
    change EStateM.bind (ev.expr scope right) _ m = _
    rw [EStateM.bind, value]
    change ev.forKeys scope labels receiver body (m'.heap.loopKeys (.object r)) m' = _
    rw [same]

/-! ### An error that hides a key -/

namespace Shadowed

open Shadowing in
/-- The machine behind a script that makes an error, of which the error is the last object. -/
def machine : Machine Unit :=
  machineOf ((Task.eval "Object.prototype.message = 1; var e = new Error('x'); e.code = 2;").run (Evaluator.ofFuel silent 20)
    (initial ()))

def error : ObjectRef := ⟨13⟩

/-- The error and its prototypes. -/
def chain : List ObjectRef := [error, errorPrototype .error, objectPrototype]

theorem walk : machine.heap.Walk (some error) chain := by
  obtain ⟨first, second, third⟩ : (machine.heap.object error).proto = some (errorPrototype .error) ∧
      (machine.heap.object (errorPrototype .error)).proto = some objectPrototype ∧
      (machine.heap.object objectPrototype).proto = none := by decide +kernel
  refine .onward ?_
  rw [first]
  refine .onward ?_
  rw [second]
  refine .onward ?_
  rw [third]
  exact .ended

end Shadowed

open Shadowed in
/-- The loop over the error visits the key that the error shows, and one that all of its objects have and the last one
shows. -/
theorem loop_keys_of_chain_error :
    machine.heap.Walk (some error) chain ∧
    (∀ p ∈ chain, (machine.heap.object p).keys.Nodup) ∧
    machine.heap.loopKeys (.object error) = machine.heap.listing Object.shows chain ∧
    machine.heap.listing Object.shows chain = ["code", "message"] ∧
    (machine.heap.loopKeys (.object error)).filter (fun key => (machine.heap.nearest? chain key).any Slot.enumerable) =
      machine.heap.listing Object.contains chain ∧
    machine.heap.listing Object.contains chain = ["code"] := by
  obtain ⟨distinct, shown, unhidden⟩ : (∀ p ∈ chain, (machine.heap.object p).keys.Nodup) ∧
      machine.heap.listing Object.shows chain = ["code", "message"] ∧
      machine.heap.listing Object.contains chain = ["code"] := by decide +kernel
  obtain ⟨-, -, listed, -, visible, -, -⟩ := loop_keys_of_chain (σ := Unit) walk distinct
  exact ⟨walk, distinct, listed, shown, visible, unhidden⟩

open Shadowed in
/-- A loop visits a key that the object hides, where a further object shows it. -/
theorem shadowed_key_visited :
    (machine.heap.nearest? chain "message").map Slot.enumerable = some false ∧
    "message" ∈ machine.heap.loopKeys (.object error) ∧
    value? ((Task.eval "Object.prototype.message = 1; var s = ''; for (var k in new Error('x')) s += k; s").run
      (Evaluator.ofFuel Shadowing.silent 20) (initial ())) = some (.string "message") := by
  decide +kernel

end ScriptCoverage.Machine
