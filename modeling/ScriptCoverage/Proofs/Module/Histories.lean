import Mathlib.Data.List.Induction
import Mathlib.Data.List.Nodup
import ScriptCoverage.Machine.Evaluator

/-!
Histories of modules: when they were registered, and when their factories started and ended. `IsOrderly` says which
histories a loader may leave that runs a factory only if its module is not there. Main statements: in such a history
no factory runs inside of itself (`IsOrderly.nodup_running`), and between two registrations of a module its factory
starts at most once more than it fails (`IsOrderly.count_started_le`).
-/

namespace ScriptCoverage.Module

open Machine (ModuleEvent)

/-- What happens to a module. -/
inductive Happening
  | registered (key : String)
  | ran (e : ModuleEvent)
  deriving DecidableEq

namespace Happening

abbrev started (key : String) : Happening := .ran (.started key)

abbrev finished (key : String) : Happening := .ran (.finished key)

abbrev failed (key : String) : Happening := .ran (.failed key)

/-- The module that it happens to. -/
def key : Happening → String
  | registered k | ran (.started k) | ran (.finished k) | ran (.failed k) => k

/-- The keys of the factories that are running after something happens, the innermost first. -/
def next (running : List String) : Happening → List String
  | registered _ => running
  | ran (.started k) => k :: running
  | ran (.finished k) | ran (.failed k) => running.erase k

end Happening

/-- The keys of the factories that are running after a history, the innermost first. -/
def running (h : List Happening) : List String := h.foldl Happening.next []

/-- What happened to a module at last. -/
def last? (h : List Happening) (key : String) : Option Happening := (h.filter (·.key = key)).getLast?

/-- Whether a module is there after a history: its factory is running, or did not fail at last. -/
def IsThere (h : List Happening) (key : String) : Prop := key ∈ running h ∨ last? h key = some (.finished key)

instance (h : List Happening) (key : String) : Decidable (IsThere h key) := inferInstanceAs (Decidable (_ ∨ _))

/-- What can happen behind a history. Modules are registered while no factory runs. A factory runs if its module is
not there, and the one that started last is the one that ends. -/
def Happening.MayFollow (h : List Happening) : Happening → Prop
  | registered _ => running h = []
  | ran (.started k) => ¬ IsThere h k
  | ran (.finished k) | ran (.failed k) => (running h).head? = some k

/-- Histories in which each thing may follow what happened before. -/
inductive IsOrderly : List Happening → Prop
  | nil : IsOrderly []
  | concat {h : List Happening} {e : Happening} (before : IsOrderly h) (now : e.MayFollow h) : IsOrderly (h ++ [e])

/-! ### Histories that go on -/

section

variable (h : List Happening) (e : Happening) (key : String)

@[simp]
theorem running_concat : running (h ++ [e]) = e.next (running h) := by
  rw [running, List.foldl_append]
  rfl

@[simp]
theorem last?_concat : last? (h ++ [e]) key = if e.key = key then some e else last? h key := by
  rw [last?, List.filter_append]
  by_cases same : e.key = key
  · simp [same]
  · simp [same, last?]

end

variable {h : List Happening} {e : Happening} {key : String}

theorem isOrderly_concat : IsOrderly (h ++ [e]) ↔ IsOrderly h ∧ e.MayFollow h := by
  constructor
  · intro orderly
    generalize whole : h ++ [e] = h' at orderly
    cases orderly with
    | nil => exact absurd whole (by simp)
    | concat before now =>
      obtain ⟨rfl, last⟩ := List.append_inj' whole rfl
      obtain rfl : e = _ := List.singleton_inj.1 last
      exact ⟨before, now⟩
  · intro ⟨before, now⟩
    exact before.concat now

/-- What came first was orderly, too. -/
theorem IsOrderly.of_append {later : List Happening} (orderly : IsOrderly (h ++ later)) : IsOrderly h := by
  induction later using List.reverseRecOn with
  | nil => rwa [List.append_nil] at orderly
  | append_singleton later e ih =>
    rw [← List.append_assoc] at orderly
    exact ih (isOrderly_concat.1 orderly).1

/-! ### Factories that run -/

/-- No factory runs inside of itself. -/
theorem IsOrderly.nodup_running (orderly : IsOrderly h) : (running h).Nodup := by
  induction orderly with
  | nil => exact List.nodup_nil
  | @concat h e before now ih =>
    rw [running_concat]
    match e with
    | .registered k => exact ih
    | .started k =>
      have out : k ∉ running h := fun inside => now (.inl inside)
      exact List.nodup_cons.2 ⟨out, ih⟩
    | .finished k | .failed k => exact ih.erase k

/-- Which modules are there changes only with what happens to them. -/
theorem isThere_concat_of_ne (other : e.key ≠ key) : IsThere (h ++ [e]) key ↔ IsThere h key := by
  unfold IsThere
  rw [running_concat, last?_concat, if_neg other]
  match e with
  | .registered k => rfl
  | .started k =>
    have other' : key ≠ k := Ne.symm other
    simp [Happening.next, other']
  | .finished k | .failed k =>
    have other' : key ≠ k := Ne.symm other
    simp [Happening.next, List.mem_erase_of_ne other']

theorem isThere_started : IsThere (h ++ [.started key]) key := by
  left
  rw [running_concat]
  exact List.mem_cons_self

theorem isThere_finished : IsThere (h ++ [.finished key]) key := by
  right
  rw [last?_concat]
  exact if_pos rfl

theorem not_isThere_failed (orderly : IsOrderly h) : ¬ IsThere (h ++ [.failed key]) key := by
  rintro (inside | finished)
  · rw [running_concat] at inside
    exact orderly.nodup_running.not_mem_erase inside
  · have failed : last? (h ++ [.failed key]) key = some (.failed key) := (last?_concat ..).trans (if_pos rfl)
    rw [failed] at finished
    cases finished

theorem not_isThere_registered (now : running h = []) : ¬ IsThere (h ++ [.registered key]) key := by
  rintro (inside | finished)
  · rw [running_concat, Happening.next, now] at inside
    cases inside
  · have registered : last? (h ++ [.registered key]) key = some (.registered key) :=
      (last?_concat ..).trans (if_pos rfl)
    rw [registered] at finished
    cases finished

/-- The module of a factory that ends was there. -/
theorem isThere_of_head? (first : (running h).head? = some key) : IsThere h key := .inl (List.mem_of_mem_head? first)

/-! ### Stretches without a registration -/

/-- Whether a module is there, as a number. -/
def presence (h : List Happening) (key : String) : Nat := if IsThere h key then 1 else 0

theorem presence_of_isThere (there : IsThere h key) : presence h key = 1 := if_pos there

theorem presence_of_not_isThere (away : ¬ IsThere h key) : presence h key = 0 := if_neg away

theorem presence_le_one : presence h key ≤ 1 := by
  unfold presence
  split <;> decide

theorem presence_concat_of_ne (other : e.key ≠ key) : presence (h ++ [e]) key = presence h key := by
  unfold presence
  exact if_congr (isThere_concat_of_ne other) rfl rfl

/-- While a module is not registered anew, each start of its factory brings it in and each failure takes it out. -/
theorem IsOrderly.count_started {between : List Happening} (orderly : IsOrderly (h ++ between))
    (unregistered : .registered key ∉ between) :
    presence h key + between.count (.started key) = presence (h ++ between) key + between.count (.failed key) := by
  induction between using List.reverseRecOn with
  | nil => simp
  | append_singleton between e ih =>
    rw [← List.append_assoc] at orderly
    obtain ⟨before, now⟩ := isOrderly_concat.1 orderly
    have earlier : Happening.registered key ∉ between := fun inside => unregistered (List.mem_append_left _ inside)
    have balance := ih before earlier
    rw [← List.append_assoc, List.count_append, List.count_append]
    -- only a start or a failure of the module itself changes whether it is there, and each is counted on its side
    by_cases same : e.key = key
    · match e with
      | .registered k =>
        obtain rfl : k = key := same
        exact absurd (List.mem_append_right between List.mem_cons_self) unregistered
      | .started k =>
        obtain rfl : k = key := same
        have away : presence (h ++ between) k = 0 := presence_of_not_isThere now
        have there : presence (h ++ between ++ [.started k]) k = 1 := presence_of_isThere isThere_started
        rw [there]
        simp
        omega
      | .finished k =>
        obtain rfl : k = key := same
        have before : presence (h ++ between) k = 1 := presence_of_isThere (isThere_of_head? now)
        have after : presence (h ++ between ++ [.finished k]) k = 1 := presence_of_isThere isThere_finished
        rw [after]
        simp
        omega
      | .failed k =>
        obtain rfl : k = key := same
        have there : presence (h ++ between) k = 1 := presence_of_isThere (isThere_of_head? now)
        have away : presence (h ++ between ++ [.failed k]) k = 0 := presence_of_not_isThere (not_isThere_failed before)
        rw [away]
        simp
        omega
    · have starts : [e].count (.started key) = 0 := List.count_eq_zero.2 fun inside =>
        same (congrArg Happening.key (List.mem_singleton.1 inside)).symm
      have fails : [e].count (.failed key) = 0 := List.count_eq_zero.2 fun inside =>
        same (congrArg Happening.key (List.mem_singleton.1 inside)).symm
      rw [presence_concat_of_ne same, starts, fails]
      exact balance

/-- While a module is not registered anew, its factory starts at most once more than it fails. -/
theorem IsOrderly.count_started_le {before between after : List Happening} (orderly : IsOrderly (before ++ between ++ after))
    (unregistered : .registered key ∉ between) : between.count (.started key) ≤ between.count (.failed key) + 1 := by
  have balance := orderly.of_append.count_started unregistered
  have atMost : presence (before ++ between) key ≤ 1 := presence_le_one
  omega

end ScriptCoverage.Module
