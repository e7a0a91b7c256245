import Mathlib.Data.List.Nodup
import Mathlib.Data.List.Perm.Subperm
import ScriptCoverage.Proofs.Machine.PrototypeChains

/-!
How long chains in the heap are. A chain that ends never comes back to where it was, so it is no longer than there are
places, and the bounded searches of the heap get to its end: `Heap.Walk.chain_eq` for prototypes.
-/

namespace ScriptCoverage.Machine

/-- As many places without repetition lie below a bound at most. -/
theorem length_le_of_nodup {α : Type} {index : α → Nat} (injective : index.Injective) {rs : List α} (distinct : rs.Nodup)
    {n : Nat} (below : ∀ r ∈ rs, index r < n) : rs.length ≤ n := by
  have places : rs.map index ⊆ List.range n := by
    intro i hi
    obtain ⟨r, hr, rfl⟩ := List.mem_map.1 hi
    exact List.mem_range.2 (below r hr)
  simpa using ((distinct.map injective).subperm places).length_le

namespace Heap

variable {h : Heap}

/-! ### Prototypes -/

/-- A longer part of a chain begins with a shorter one. -/
theorem chainWithin_isPrefix (h : Heap) (n : Nat) (start : Option ObjectRef) :
    h.chainWithin n start <+: h.chainWithin (n + 1) start := by
  induction n generalizing start with
  | zero => exact List.nil_prefix
  | succ n ih =>
    cases start with
    | none => exact List.prefix_rfl
    | some r => exact (List.prefix_cons_inj r).2 (ih _)

namespace Walk

variable {start : Option ObjectRef} {r : ObjectRef} {rs : List ObjectRef}

theorem unique {rs' : List ObjectRef} (walk : h.Walk start rs) (other : h.Walk start rs') : rs = rs' := by
  induction walk generalizing rs' with
  | ended => cases other; rfl
  | onward _ ih =>
    cases other with
    | onward rest => rw [ih rest]

/-- From every object of a chain on the chain is no longer. -/
theorem of_mem (walk : h.Walk start rs) (hr : r ∈ rs) : ∃ rs', h.Walk (some r) rs' ∧ rs'.length ≤ rs.length := by
  induction walk with
  | ended => cases hr
  | @onward p rs rest ih =>
    rcases List.mem_cons.1 hr with rfl | later
    · exact ⟨r :: rs, .onward rest, le_rfl⟩
    · obtain ⟨rs', onward, le⟩ := ih later
      exact ⟨rs', onward, Nat.le_succ_of_le le⟩

/-- A chain that ends never comes back to an object. -/
theorem nodup (walk : h.Walk start rs) : rs.Nodup := by
  induction walk with
  | ended => exact List.nodup_nil
  | @onward r rs rest ih =>
    refine List.nodup_cons.2 ⟨fun again => ?_, ih⟩
    obtain ⟨rs', onward, le⟩ := rest.of_mem again
    rw [onward.unique (.onward rest)] at le
    exact absurd le (Nat.not_succ_le_self _)

/-- All objects of a chain but the last one are there. -/
theorem index_lt (walk : h.Walk start rs) (hr : r ∈ rs.dropLast) : r.index < h.objects.size := by
  induction walk with
  | ended => cases hr
  | @onward p rs rest ih =>
    cases rs with
    | nil => cases hr
    | cons q rs =>
      rw [List.dropLast_cons_cons] at hr
      rcases List.mem_cons.1 hr with rfl | later
      · refine Nat.lt_of_not_le fun missing => ?_
        rw [object, Array.getElem?_eq_none missing] at rest
        cases rest
      · exact ih later

theorem chainWithin_eq (walk : h.Walk start rs) {n : Nat} (le : rs.length ≤ n) : h.chainWithin n start = rs := by
  induction walk generalizing n with
  | ended => cases n <;> rfl
  | onward rest ih =>
    cases n with
    | zero => cases le
    | succ n => rw [chainWithin, ih (Nat.le_of_succ_le_succ le)]

/-- The bound on chains is not met behind the first object of a chain that ends. -/
theorem chain_eq (walk : h.Walk (some r) (r :: rs)) : h.chain (h.object r).proto = rs := by
  cases walk with
  | onward rest =>
    refine rest.chainWithin_eq ?_
    have injective : ObjectRef.index.Injective := fun ⟨_⟩ ⟨_⟩ same => congrArg ObjectRef.mk same
    have places := length_le_of_nodup injective ((Walk.onward rest).nodup.sublist (List.dropLast_sublist _))
      fun p hp => (Walk.onward rest).index_lt hp
    simpa using places

end Walk

end Heap

end ScriptCoverage.Machine
