import ScriptCoverage.Proofs.Machine.WholeRuns

/-!
What runs leave as it is. A `Steadiness` says which changes of a machine are small ones, among them those of heap,
console and loaded modules, and a run follows another one steadily if it makes small changes only and does the same
unless it is stopped. This goes along with how runs are put together (`Steadiness.congruence`), so what a host asks for
is followed steadily if the code of the host is steady (`Steadiness.tolerates`).
-/

namespace ScriptCoverage.Machine

variable {σ α β : Type}

/-- Small changes of the machines that something holds of, for code that runs in some of all scopes. The depth is set
when a level is entered, and set back when it is left. -/
structure Steadiness (σ : Type) where
  Holds : Machine σ → Prop
  Small : Machine σ → Machine σ → Prop
  Inside : Scope → Prop := fun _ => True
  /-- The frames that names may be bound in. -/
  Free : FrameRef → Prop := fun _ => True
  /-- Whether a run may be stopped. -/
  Stops : Prop
  refl (m : Machine σ) : Small m m
  trans {m₁ m₂ m₃ : Machine σ} : Small m₁ m₂ → Small m₂ m₃ → Small m₁ m₃
  holds {m m' : Machine σ} : Holds m → Small m m' → Holds m'
  memory {m : Machine σ} (heap : Heap) (frames : Array Frame) :
    m.FramesKept { m with heap, frames } → Small m { m with heap, frames }
  bind {m : Machine σ} (r : FrameRef) (name : String) (v : Value) : Holds m → Free r → Small m (m.bind r name v)
  aside (m : Machine σ) (loaded : Table ObjectRef) (console : Array String) : Small m { m with loaded, console }
  opens {m : Machine σ} {scope : Scope} : Holds m → Inside scope → Inside (⟨m.frames.size⟩ :: scope)
  fresh {m : Machine σ} : Holds m → Free ⟨m.frames.size⟩
  enters {m : Machine σ} : Holds m → m.depth < maxDepth → Holds { m with depth := m.depth + 1 }
  leaves {m m' : Machine σ} : Small { m with depth := m.depth + 1 } m' → Small m { m' with depth := m.depth }

namespace Steadiness

variable (S : Steadiness σ)

/-- How a run may end that follows another one: with small changes, in the same way unless it was stopped. -/
structure Leaves (m : Machine σ) (x y : EStateM.Result Interrupt (Machine σ) α) : Prop where
  small : S.Small m (machineOf y)
  same : y = x ∨ ∃ m', y = .error .stopped m'
  stops : ∀ m', y = .error .stopped m' → S.Stops

/-- Whether a run makes small changes only, and does the same as another one unless it is stopped. -/
def Follows (x y : Run σ α) : Prop := ∀ m, S.Holds m → S.Leaves m (x m) (y m)

variable {S}

theorem Leaves.ok {m m' : Machine σ} (a : α) (small : S.Small m m') : S.Leaves m (.ok a m') (.ok a m') :=
  ⟨small, .inl rfl, nofun⟩

/-- What goes on behind small changes may end as it does from where it goes on. -/
theorem Leaves.after {m m' : Machine σ} {x y : EStateM.Result Interrupt (Machine σ) α} (ends : S.Leaves m' x y)
    (small : S.Small m m') : S.Leaves m x y := ⟨S.trans small ends.small, ends.same, ends.stops⟩

/-- A run that did not end early did the same. -/
theorem Leaves.eq {m m' : Machine σ} {a : α} {x : EStateM.Result Interrupt (Machine σ) α}
    (ends : S.Leaves m x (.ok a m')) : x = .ok a m' := (ends.same.resolve_right nofun).symm

namespace Follows

variable {x y : Run σ α}

/-- A step with a small change. -/
theorem step (h : ∀ m, S.Holds m → ∃ a m', x m = .ok a m' ∧ S.Small m m') : S.Follows x x := by
  intro m on
  obtain ⟨a, m', ran, small⟩ := h m on
  rw [ran]
  exact .ok a small

/-- An error that changes nothing. -/
theorem error {i : Interrupt} (stops : i = .stopped → S.Stops) : S.Follows (throw i : Run σ α) (throw i) :=
  fun m _ => ⟨S.refl m, .inl rfl, fun _ h => stops (by injection h)⟩

theorem bind {f g : α → Run σ β} (first : S.Follows x y) (next : ∀ a, S.Follows (f a) (g a)) :
    S.Follows (x >>= f) (y >>= g) := by
  intro m on
  have ends := first m on
  change S.Leaves m (EStateM.bind x f m) (EStateM.bind y g m)
  unfold EStateM.bind
  cases ran : y m with
  | ok a m₁ =>
    rw [ran] at ends
    rw [ends.eq]
    exact (next a m₁ (S.holds on ends.small)).after ends.small
  | error i m₁ =>
    rw [ran] at ends
    rcases ends.same with same | ⟨n, stopped⟩
    · rw [← same]
      exact ⟨ends.small, .inl rfl, fun n h => ends.stops n (by injection h with h₁ h₂; rw [h₁, h₂])⟩
    · injection stopped with stopped
      subst stopped
      exact ⟨ends.small, .inr ⟨m₁, rfl⟩, fun _ _ => ends.stops m₁ rfl⟩

theorem deeper (h : S.Follows x y) {m : Machine σ} (on : S.Holds m) (room : m.depth < maxDepth) :
    S.Leaves m (Run.deeper x m) (Run.deeper y m) := by
  have ends := h _ (S.enters on room)
  unfold Run.deeper
  dsimp only
  generalize x { m with depth := m.depth + 1 } = rx at ends
  generalize y { m with depth := m.depth + 1 } = ry at ends
  refine ⟨?_, ?_, fun m' stopped => ?_⟩
  · cases ry with
    | ok a m₁ => exact S.leaves ends.small
    | error i m₁ => exact S.leaves ends.small
  · rcases ends.same with same | ⟨m', stopped⟩
    · exact .inl (by rw [same])
    · exact .inr ⟨_, by rw [stopped]⟩
  · cases ry with
    | ok a m₁ => cases stopped
    | error i m₁ =>
      injection stopped with stopped
      exact ends.stops m₁ (by rw [stopped])

theorem attempt (h : S.Follows x y) : S.Follows (Run.attempt x) (Run.attempt y) := by
  intro m on
  have ends := h m on
  unfold Run.attempt
  generalize x m = rx at ends
  generalize y m = ry at ends
  refine ⟨?_, ?_, fun m' stopped => ?_⟩
  · match ry with
    | .ok .. | .error (.failed _) _ | .error .outOfFuel _ | .error .stopped _ => exact ends.small
  · rcases ends.same with same | ⟨m', stopped⟩
    · exact .inl (by rw [same])
    · exact .inr ⟨_, by rw [stopped]⟩
  · match ry with
    | .ok .. | .error (.failed _) _ | .error .outOfFuel _ => cases stopped
    | .error .stopped m₁ => exact ends.stops m₁ rfl

/-- With watchers of which the second one waits for more, but in vain unless the run may be stopped. -/
theorem watched (h : S.Follows x y) {waits waits' : Machine σ → Bool} (more : ∀ m, S.Holds m → waits m → waits' m)
    (vain : S.Stops ∨ ∀ m, S.Holds m → waits' m = false) :
    S.Follows (Run.watched waits x) (Run.watched waits' y) := by
  have watch : S.Follows (Run.watch waits) (Run.watch waits') := by
    intro m on
    unfold Run.watch
    by_cases waiting : waits' m
    · rw [if_pos waiting]
      refine ⟨S.refl m, .inr ⟨m, rfl⟩, fun _ _ => vain.resolve_right fun h => ?_⟩
      rw [h m on] at waiting
      cases waiting
    · rw [if_neg waiting, if_neg fun h => waiting (more m on h)]
      exact .ok () (S.refl m)
  exact bind watch fun _ => bind h fun a => bind watch fun _ => step fun m _ => ⟨a, m, rfl, S.refl m⟩

/-- Behind a watcher that waits in vain. -/
theorem behind (h : S.Follows x y) {waits : Machine σ → Bool} (vain : ∀ m, S.Holds m → waits m = false) :
    S.Follows x (do Run.watch waits; y) := by
  intro m on
  change S.Leaves m (x m) (EStateM.bind (Run.watch waits) (fun _ => y) m)
  unfold EStateM.bind Run.watch
  rw [vain m on]
  exact h m on

/-- Behind a watcher that may stop the run. -/
theorem guarded {waits : Machine σ → Bool} (stops : S.Stops)
    (h : ∀ m, S.Holds m → waits m = false → S.Leaves m (x m) (y m)) : S.Follows x (do Run.watch waits; y) := by
  intro m on
  change S.Leaves m (x m) (EStateM.bind (Run.watch waits) (fun _ => y) m)
  unfold EStateM.bind Run.watch
  cases waiting : waits m with
  | true => exact ⟨S.refl m, .inr ⟨m, rfl⟩, fun _ _ => stops⟩
  | false => exact h m on waiting

/-- What is small for more machines is small for fewer. -/
theorem weaken {S' : Steadiness σ} (h : S.Follows x y) (holds : ∀ m, S'.Holds m → S.Holds m)
    (small : ∀ m m', S.Small m m' → S'.Small m m') (stops : S.Stops → S'.Stops) : S'.Follows x y := fun m on =>
  have ends := h m (holds m on)
  ⟨small _ _ ends.small, ends.same, fun m' stopped => stops (ends.stops m' stopped)⟩

end Follows

variable (S)

/-! ### Whole runs -/

/-- Following a run steadily goes along with how runs are put together. -/
def congruence : Congruence σ σ where
  Rel := S.Follows
  Inside := S.Inside
  Free := S.Free
  pure a := .step fun m _ => ⟨a, m, rfl, S.refl m⟩
  bind := .bind
  fail _ := .error nofun
  outOfFuel := .error nofun
  onMemory f keeps := .step fun m _ => ⟨_, _, rfl, S.memory _ _ <|
    have kept := keeps m.memory
    ⟨⟨kept.size, kept.kind, kept.bound⟩, kept.value⟩⟩
  bindName r name v free := .step fun m on => ⟨(), _, rfl, S.bind r name v on free⟩
  openFrame {_ scope _ _} kind bindings inside behind := by
    intro m on
    have opened : S.Small m (m.openFrame kind bindings scope).2 := S.memory _ _ (.openFrame m kind bindings scope)
    exact (behind ⟨m.frames.size⟩ (S.opens on inside) (S.fresh on) _ (S.holds on opened)).after opened
  log line := .step fun m _ => ⟨(), _, rfl, S.aside m m.loaded (m.console.push line)⟩
  onRegistry f := .step fun m _ => ⟨f m.registry, m, rfl, S.refl m⟩
  level {_ x y} h := by
    intro m on
    change S.Leaves m ((if maxDepth ≤ m.depth then Run.fail .stackOverflow else Run.deeper x) m)
      ((if maxDepth ≤ m.depth then Run.fail .stackOverflow else Run.deeper y) m)
    split
    · exact ⟨S.refl m, .inl rfl, nofun⟩
    · next room => exact h.deeper on (Nat.lt_of_not_le room)
  attempt h ok caught uncaught := by
    refine .bind h.attempt fun r => ?_
    match r with
    | .ok a => exact ok a
    | .error e =>
      cases catchable : e.isCatchable with
      | true => exact caught e catchable
      | false =>
        rw [(uncaught e catchable).1, (uncaught e catchable).2]
        exact .error nofun

theorem thorough : S.congruence.Thorough where
  fail _ := .error nofun
  attempt := Follows.attempt
  onLoaded f := .step fun m _ => ⟨_, _, rfl, S.aside m (f m.loaded).2 m.console⟩

/-- Code whose own steps are small is steady, with watchers that wait in vain unless it may be stopped. -/
theorem tolerates {watchers : (Machine σ → Bool) → Prop}
    (vain : ∀ waits, watchers waits → S.Stops ∨ ∀ m, S.Holds m → waits m = false) :
    S.congruence.Tolerates S.Small watchers where
  thorough := S.thorough
  step small := .step fun m _ => small m
  watched waiting h := h.watched (fun _ _ => id) (vain _ waiting)

end Steadiness

end ScriptCoverage.Machine
