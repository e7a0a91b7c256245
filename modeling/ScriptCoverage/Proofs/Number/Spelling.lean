import ScriptCoverage.Number.Decimal
import ScriptCoverage.Proofs.Number.Whole

/-!
The spelling of whole numbers. Below `2 ^ 53` no other whole number rounds to a whole one, so a grid of whole
numbers has a point for it only if that is the number itself. Main statements: `literalText_ofWhole` — such a number
is spelled with its own digits — and `toFloat_natCast`, by which they read back.
-/

namespace ScriptCoverage

namespace Decimal

/-! ### Grids of whole numbers -/

/-- Whether a number, opened, is a whole one; its exponent is not positive then. -/
structure Opens (n : Nat) (d : Binary) : Prop where
  exponent : d.exponent ≤ 0
  mantissa : d.mantissa = n * 2 ^ (-d.exponent).toNat

section Grid

variable {n : Nat} {d : Binary} (h : Opens n d)

include h

theorem grid_natCast (x : Nat) : grid d x = ⟨1, 2 ^ (-d.exponent).toNat * 10 ^ x⟩ := by
  have up : d.exponent.toNat = 0 := Int.toNat_of_nonpos h.exponent
  have down : (-(x : Int)).toNat = 0 := by omega
  rw [grid, up, down, Int.toNat_natCast]
  rfl

/-- Whole numbers are further apart than the interval is wide. -/
theorem eq_of_inInterval {narrow : Bool} {x c : Nat} (inside : inInterval d.mantissa narrow (grid d x) c = true) :
    c * 10 ^ x = n := by
  rw [grid_natCast h, h.mantissa] at inside
  have pos : 0 < 2 ^ (-d.exponent).toNat := Nat.two_pow_pos _
  generalize 2 ^ (-d.exponent).toNat = w at *
  have bounds : 4 * (n * w) ≤ 4 * c * (w * 10 ^ x) + 2 ∧ 4 * c * (w * 10 ^ x) ≤ 4 * (n * w) + 2 := by
    simp only [inInterval, Nat.mul_one] at inside
    split at inside <;> simp only [Bool.and_eq_true, decide_eq_true_eq] at inside <;> split at inside <;> omega
  have scaled : 4 * c * (w * 10 ^ x) = 4 * (c * 10 ^ x * w) := by ring
  rw [scaled] at bounds
  generalize c * 10 ^ x = k at *
  rcases Nat.lt_trichotomy k n with less | same | more
  · have := Nat.mul_le_mul_right w less
    rw [Nat.succ_mul] at this
    omega
  · exact same
  · have := Nat.mul_le_mul_right w more
    rw [Nat.succ_mul] at this
    omega

theorem eq_of_onGrid? {x c : Nat} (found : onGrid? d x = some c) : c * 10 ^ x = n := by
  unfold onGrid? at found
  dsimp only at found
  split at found
  · next both =>
    simp only [Bool.and_eq_true] at both
    split at found <;> cases found
    · exact eq_of_inInterval h both.1
    · exact eq_of_inInterval h both.2
  · split at found
    · next below =>
      cases found
      exact eq_of_inInterval h below
    · split at found
      · next above =>
        cases found
        exact eq_of_inInterval h above
      · cases found

/-- The number itself lies in its interval. -/
theorem inInterval_self (narrow : Bool) : inInterval d.mantissa narrow (grid d (0 : Nat)) n = true := by
  rw [grid_natCast h, h.mantissa]
  have itself : 4 * n * (2 ^ (-d.exponent).toNat * 10 ^ 0) = 4 * (n * 2 ^ (-d.exponent).toNat) := by ring
  generalize n * 2 ^ (-d.exponent).toNat = m at *
  simp only [inInterval, itself, Nat.mul_one]
  split <;> simp only [Bool.and_eq_true, decide_eq_true_eq] <;> split <;> omega

/-- On the grid of all whole numbers there is a point. -/
theorem isSome_onGrid?_zero : (onGrid? d (0 : Nat)).isSome := by
  have below : d.mantissa * (grid d (0 : Nat)).scale / (grid d (0 : Nat)).den = n := by
    rw [grid_natCast h, h.mantissa, Nat.mul_one, Nat.pow_zero, Nat.mul_one, Nat.mul_div_cancel _ (Nat.two_pow_pos _)]
  unfold onGrid?
  dsimp only
  rw [below, inInterval_self h]
  split
  · split <;> rfl
  · rfl

end Grid

/-! ### The leading digit -/

theorem log2_mul_two_pow {n : Nat} (pos : n ≠ 0) (t : Nat) : (n * 2 ^ t).log2 = n.log2 + t := by
  refine (Nat.log2_eq_iff (Nat.mul_ne_zero pos (Nat.two_pow_pos t).ne')).2 ⟨?_, ?_⟩
  · rw [Nat.pow_add]
    exact Nat.mul_le_mul_right _ (Nat.log2_self_le pos)
  · rw [Nat.add_right_comm, Nat.pow_add]
    exact Nat.mul_lt_mul_of_pos_right Nat.lt_log2_self (Nat.two_pow_pos t)

/-- The guess from binary digits is off by one at most, and not below zero for a whole number. -/
theorem leadingPower_bounds {n : Nat} {d : Binary} (h : Opens n d) (pos : n ≠ 0) (small : n < 2 ^ 53) :
    ∃ k : Nat, leadingPower d = k ∧ k ≤ 16 := by
  have up : d.exponent.toNat = 0 := Int.toNat_of_nonpos h.exponent
  have ratio : d.ratio = (n * 2 ^ (-d.exponent).toNat, 2 ^ (-d.exponent).toNat) := by
    rw [Binary.ratio, up, h.mantissa]
    exact Prod.ext (Nat.mul_one _) rfl
  generalize (-d.exponent).toNat = t at ratio
  have small : n.log2 < 53 := (Nat.log2_lt pos).2 small
  obtain ⟨g, guess, bound⟩ :
      ∃ g : Nat, Int.fdiv ((((n * 2 ^ t).log2 : Int) - (2 ^ t).log2) * 30103) 100000 = g ∧ g ≤ 15 := by
    refine ⟨n.log2 * 30103 / 100000, ?_, by omega⟩
    rw [log2_mul_two_pow pos, Nat.log2_two_pow, Int.fdiv_eq_ediv_of_nonneg _ (by decide)]
    omega
  have one : 2 ^ t * Nat.pow 10 (0 : Int).toNat ≤ n * 2 ^ t * Nat.pow 10 (-(0 : Int)).toNat := by
    have le : 1 * 2 ^ t ≤ n * 2 ^ t := Nat.mul_le_mul_right _ (Nat.one_le_iff_ne_zero.2 pos)
    rw [Nat.one_mul] at le
    exact Nat.mul_le_mul_right 1 le
  unfold leadingPower
  rw [ratio]
  dsimp only
  rw [guess]
  split
  · exact ⟨g + 1, rfl, by omega⟩
  · split
    · exact ⟨g, rfl, by omega⟩
    · next below =>
      cases g with
      | zero => exact absurd (decide_eq_true one) below
      | succ g => exact ⟨g, by omega, by omega⟩

/-! ### Spelling -/

/-- A search through numbers from zero on stops no later than at one where it succeeds. -/
theorem findSome?_range {α : Type} {f : Nat → Option α} {m j : Nat} (hj : j < m) (hf : (f j).isSome) :
    ∃ i ≤ j, ∃ a, f i = some a ∧ (List.range m).findSome? f = some a := by
  obtain ⟨a, found⟩ := Option.isSome_iff_exists.1 (List.findSome?_isSome_iff.2 ⟨j, List.mem_range.2 hj, hf⟩)
  obtain ⟨before, i, behind, split, hi, none⟩ := List.findSome?_eq_some_iff.1 found
  refine ⟨i, ?_, a, hi, found⟩
  have ascending := split ▸ List.pairwise_lt_range (n := m)
  have mem : j ∈ before ++ i :: behind := split ▸ List.mem_range.2 hj
  rcases List.mem_append.1 mem with earlier | later
  · rw [none j earlier] at hf
    cases hf
  · rcases List.mem_cons.1 later with same | later
    · exact same ▸ Nat.le_refl i
    · exact Nat.le_of_lt ((List.pairwise_cons.1 (List.pairwise_append.1 ascending).2.1).1 j later)

/-- What a last zero stands for goes into the exponent. -/
theorem positional_dropZero (c x : Nat) : (dropZero ⟨c, x⟩).positional = toString (c * 10 ^ x) := by
  unfold dropZero
  split
  · next zero =>
    simp only [Bool.and_eq_true, decide_eq_true_eq] at zero
    have next : ((x : Int) + 1) = ((x + 1 : Nat) : Int) := rfl
    have whole : c / 10 * 10 ^ (x + 1) = c * 10 ^ x := by
      rw [Nat.pow_succ', ← Nat.mul_assoc, Nat.div_mul_cancel (Nat.dvd_of_mod_eq_zero zero.1)]
    change (if (0 : Int) ≤ (x : Int) + 1 then toString (c / 10 * 10 ^ ((x : Int) + 1).toNat) else _) = _
    rw [next, if_pos (Int.natCast_nonneg _), Int.toNat_natCast, whole]
  · change (if (0 : Int) ≤ (x : Int) then toString (c * 10 ^ (x : Int).toNat) else _) = _
    rw [if_pos (Int.natCast_nonneg _), Int.toNat_natCast]

theorem positional_shortest {n : Nat} {d : Binary} (h : Opens n d) (pos : n ≠ 0) (small : n < 2 ^ 53) :
    (shortest d).positional = toString n := by
  obtain ⟨k, power, bound⟩ := leadingPower_bounds h pos small
  have last : ((onGrid? d ((k : Int) - (k : Nat))).map fun c => dropZero ⟨c, (k : Int) - (k : Nat)⟩).isSome := by
    rw [Option.isSome_map, Int.sub_self]
    exact isSome_onGrid?_zero h
  obtain ⟨i, hi, e, found, first⟩ := findSome?_range (f := fun i : Nat =>
    (onGrid? d ((k : Int) - i)).map fun c => dropZero ⟨c, (k : Int) - i⟩) (m := 17) (by omega) last
  have whole : (k : Int) - i = (k - i : Nat) := by omega
  rw [whole, Option.map_eq_some_iff] at found
  obtain ⟨c, point, rfl⟩ := found
  rw [shortest, power]
  change positional (((List.range 17).findSome? _).getD _) = _
  rw [first, Option.getD_some, positional_dropZero, eq_of_onGrid? h point]

end Decimal

/-- Whole numbers are spelled with their own digits. -/
theorem literalText_ofWhole {n : Nat} (h : n < 2 ^ 53) : literalText (ofWhole n) = toString n := by
  by_cases zero : n = 0
  · subst zero
    decide +kernel
  · rw [literalText, Binary.ofFloat?_ofWhole_of_lt zero h]
    have log : n.log2 < 53 := (Nat.log2_lt zero).2 h
    have opens : Decimal.Opens n ⟨false, n * 2 ^ (52 - n.log2), n.log2 - 52⟩ := by
      refine ⟨by dsimp only; omega, ?_⟩
      have down : (-((n.log2 : Int) - 52)).toNat = 52 - n.log2 := by omega
      dsimp only
      rw [down]
    have mantissa : n * 2 ^ (52 - n.log2) ≠ 0 := Nat.mul_ne_zero zero (Nat.two_pow_pos _).ne'
    change signed false (if n * 2 ^ (52 - n.log2) = 0 then "0" else _) = _
    rw [if_neg mantissa, Decimal.positional_shortest opens zero h]
    rfl

/-- The digits of a whole number read back as the number. -/
theorem toFloat_natCast {n : Nat} (h : n < 2 ^ 53) : Decimal.toFloat false ⟨n, 0⟩ = ofWhole n := by
  have short : (toString n).length ≤ 16 := by
    rw [Nat.toString_eq_repr, ← String.length_toList, Nat.toList_repr]
    exact (Nat.length_toDigits_le_iff (by decide) (by decide)).2 (by omega)
  have natural : ofWhole n = Binary.ofRatio false n 1 := by
    rw [ofWhole, decide_eq_false (by omega), Int.natAbs_natCast]
  have small : ¬ (0 + ((toString n).length : Int) < -400) := by omega
  have notLarge : ¬ (400 < 0 + ((toString n).length : Int)) := by omega
  unfold Decimal.toFloat
  dsimp only
  rw [natural, if_neg notLarge]
  split
  · next tiny =>
    simp only [Bool.or_eq_true, decide_eq_true_eq, small, or_false] at tiny
    rw [tiny]
  · change Binary.ofRatio false (n * 1) 1 = _
    rw [Nat.mul_one]

end ScriptCoverage
