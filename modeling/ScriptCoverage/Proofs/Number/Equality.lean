import ScriptCoverage.Number.Binary

/-!
Equality of binary floating-point numbers, which puts the two zeros together and what is no number apart from all
numbers, itself included. Main statements: `beq_comm`, `beq_trans` and `beq_self`.
-/

namespace ScriptCoverage.Binary

open Float.Model (UnpackedFloat)

/-- Opened numbers are equal iff they are the same or both zeros, of whatever sign. -/
theorem compare_eq_eq_iff (a b : UnpackedFloat) :
    a.compare b = some .eq ↔ a ≠ .notANumber ∧ (a = b ∨ ∃ s t, a = .zero s ∧ b = .zero t) := by
  have apart (differ : a ≠ b) (zeros : ∀ s t, a = .zero s → b ≠ .zero t) (h : a.compare b ≠ some .eq) :
      a.compare b = some .eq ↔ a ≠ .notANumber ∧ (a = b ∨ ∃ s t, a = .zero s ∧ b = .zero t) :=
    iff_of_false h fun ⟨_, same⟩ => same.elim differ fun ⟨s, t, ha, hb⟩ => zeros s t ha hb
  cases a with
  | notANumber => exact iff_of_false nofun fun h => h.1 rfl
  | infinity s =>
    cases b with
    | infinity t =>
      cases s <;> cases t
      case negative.negative | positive.positive => exact iff_of_true rfl ⟨nofun, .inl rfl⟩
      case negative.positive | positive.negative => exact apart nofun nofun nofun
    | _ => exact apart nofun nofun (by cases s <;> nofun)
  | zero s =>
    cases b with
    | zero t => exact iff_of_true rfl ⟨nofun, .inr ⟨s, t, rfl, rfl⟩⟩
    | notANumber => exact apart nofun nofun nofun
    | infinity t | finite t => exact apart nofun nofun (by cases t <;> nofun)
  | finite s m e pos =>
    cases b with
    | infinity t => exact apart nofun nofun (by cases t <;> nofun)
    | zero t => exact apart nofun nofun (by cases s <;> nofun)
    | notANumber => exact apart nofun nofun nofun
    | finite t m' e' pos' =>
      have order : (compare e e').then (compare m m') = .eq ↔ m = m' ∧ e = e' := by
        rw [Ordering.then_eq_eq, Int.compare_eq_eq, Nat.compare_eq_eq, and_comm]
      have values (s : UnpackedFloat.Sign) :
          (UnpackedFloat.finite s m e pos ≠ .notANumber ∧ (UnpackedFloat.finite s m e pos = .finite s m' e' pos' ∨
            ∃ p q, UnpackedFloat.finite s m e pos = .zero p ∧ UnpackedFloat.finite s m' e' pos' = .zero q)) ↔
          m = m' ∧ e = e' := by
        constructor
        · rintro ⟨-, same | ⟨p, q, zero, -⟩⟩
          · exact (UnpackedFloat.finite.inj same).2
          · cases zero
        · rintro ⟨rfl, rfl⟩
          exact ⟨nofun, .inl rfl⟩
      cases s with
      | negative =>
        cases t with
        | negative =>
          change some ((compare e e').then (compare m m')).swap = some .eq ↔ _
          rw [values, Option.some_inj, Ordering.swap_eq_eq, order]
        | positive => exact apart nofun nofun nofun
      | positive =>
        cases t with
        | negative => exact apart nofun nofun nofun
        | positive =>
          change some ((compare e e').then (compare m m')) = some .eq ↔ _
          rw [values, Option.some_inj, order]

theorem beq_iff (x y : Float) :
    (x == y) = true ↔ x.toModel.unpack ≠ .notANumber ∧
      (x.toModel.unpack = y.toModel.unpack ∨ ∃ s t, x.toModel.unpack = .zero s ∧ y.toModel.unpack = .zero t) := by
  rw [← compare_eq_eq_iff]
  change (x.toModel.unpack.compare y.toModel.unpack == some .eq) = true ↔ _
  exact beq_iff_eq

theorem isNaN_iff (x : Float) : x.isNaN = true ↔ x.toModel.unpack = .notANumber := by
  change x.toModel.unpack.isNaN = true ↔ _
  cases x.toModel.unpack with
  | notANumber => exact iff_of_true rfl rfl
  | _ => exact iff_of_false nofun nofun

variable {x y z : Float}

theorem beq_symm (h : (x == y) = true) : (y == x) = true := by
  rw [beq_iff] at h ⊢
  obtain ⟨number, same | ⟨s, t, hx, hy⟩⟩ := h
  · exact ⟨same ▸ number, .inl same.symm⟩
  · refine ⟨?_, .inr ⟨t, s, hy, hx⟩⟩
    rw [hy]
    nofun

theorem beq_comm (x y : Float) : (x == y) = (y == x) := Bool.eq_iff_iff.2 ⟨beq_symm, beq_symm⟩

theorem beq_trans (h : (x == y) = true) (h' : (y == z) = true) : (x == z) = true := by
  rw [beq_iff] at h h' ⊢
  obtain ⟨number, same | ⟨s, t, hx, hy⟩⟩ := h
  · exact ⟨number, same ▸ h'.2⟩
  · obtain ⟨-, same | ⟨-, t', -, hz⟩⟩ := h'
    · exact ⟨number, .inr ⟨s, t, hx, same.symm.trans hy⟩⟩
    · exact ⟨number, .inr ⟨s, t', hx, hz⟩⟩

theorem beq_self (x : Float) : (x == x) = !x.isNaN := by
  rw [Bool.eq_iff_iff, beq_iff, Bool.not_eq_true', ← Bool.not_eq_true, isNaN_iff]
  exact and_iff_left (.inl rfl)

end ScriptCoverage.Binary
