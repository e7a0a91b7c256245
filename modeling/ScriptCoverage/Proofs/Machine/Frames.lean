import ScriptCoverage.Machine.Scope

/-!
Frames behind a change of a machine: of what kind they are, and which names they bind to what.
-/

namespace ScriptCoverage.Machine

variable {σ : Type}

theorem isBound_eq (m : Machine σ) (r : FrameRef) (name : String) : m.isBound r name = (m.binding? r name).isSome :=
  rfl

/-- Frames that are not there bind nothing. -/
theorem index_lt_of_binding? {m : Machine σ} {r : FrameRef} {name : String} {v : Value}
    (h : m.binding? r name = some v) : r.index < m.frames.size := by
  refine Nat.lt_of_not_le fun missing => ?_
  rw [binding?, frame, Array.getElem?_eq_none missing] at h
  cases h

/-! ### Changes of one frame -/

theorem frame_modifyBindings (m : Machine σ) (r s : FrameRef) (f : Table Value → Table Value) :
    (m.modifyBindings r f).frame s =
      if r = s ∧ s.index < m.frames.size then { m.frame s with bindings := f (m.frame s).bindings } else m.frame s := by
  rw [frame, modifyBindings, Array.getElem?_modify]
  have index : r.index = s.index ↔ r = s := ⟨fun h => by cases r; cases s; cases h; rfl, fun h => h ▸ rfl⟩
  by_cases hr : r = s
  · by_cases hs : s.index < m.frames.size
    · simp [hr, hs, frame]
    · simp [hr, hs, frame]
  · simp [index, hr, frame]

theorem kind_modifyBindings (m : Machine σ) (r s : FrameRef) (f : Table Value → Table Value) :
    ((m.modifyBindings r f).frame s).kind = (m.frame s).kind := by
  rw [frame_modifyBindings]
  split <;> rfl

theorem binding?_bind_self {m : Machine σ} {r : FrameRef} (there : r.index < m.frames.size) (name : String)
    (v : Value) : (m.bind r name v).binding? r name = some v := by
  rw [binding?, Machine.bind, frame_modifyBindings, if_pos ⟨rfl, there⟩, Table.get?_put, if_pos rfl]

/-- Binding a name leaves the bindings of other frames, and those of other names, alone. -/
theorem binding?_bind_elsewhere (m : Machine σ) {r s : FrameRef} {name other : String} (ne : s ≠ r ∨ other ≠ name)
    (v : Value) : (m.bind r name v).binding? s other = m.binding? s other := by
  rw [binding?, Machine.bind, frame_modifyBindings]
  split
  · next here =>
    rw [Table.get?_put, if_neg (ne.resolve_left fun h => h here.1.symm).symm]
    rfl
  · rfl

theorem binding?_bind {m : Machine σ} {r : FrameRef} (there : r.index < m.frames.size) (name : String) (v : Value)
    (s : FrameRef) (other : String) :
    (m.bind r name v).binding? s other = if s = r ∧ other = name then some v else m.binding? s other := by
  split
  · next same =>
    rw [same.1, same.2]
    exact binding?_bind_self there name v
  · next other => exact binding?_bind_elsewhere m (Decidable.not_and_iff_not_or_not.1 other) v

theorem isBound_bind {m : Machine σ} {r : FrameRef} (there : r.index < m.frames.size) (name : String) (v : Value) :
    (m.bind r name v).isBound r name := by
  rw [isBound_eq, binding?_bind_self there]
  rfl

/-! ### Frames that are opened -/

theorem frame_openFrame (m : Machine σ) (kind : FrameKind) (bindings : Table Value) (scope : Scope) (s : FrameRef) :
    (m.openFrame kind bindings scope).2.frame s =
      if s.index = m.frames.size then { kind, bindings } else m.frame s := by
  rw [frame, openFrame, Array.getElem?_push]
  split <;> rfl

end ScriptCoverage.Machine
