import Mathlib
import ScriptCoverage.Proofs.Number.Equality
import ScriptCoverage.Proofs.Number.Whole

/-!
Exact values of binary floating-point numbers, as fractions. Main statements: `ofFloat?_eq` — opening a number
agrees with what the number stands for — `isNaN_ofRatio` — a rounded fraction is always a number — and
`offset?_number_eq_some_iff` — the offset that a number gives is its value, cut off at the greatest one.
-/

namespace ScriptCoverage

namespace Binary

open Float.Model (Format UnpackedFloat)
open Float.Model.UnpackedFloat

/-! ### The fields of the bits -/

variable (b : BitVec 64)

theorem toNat_unpackMantissa : (@unpackMantissa Format.binary64 b).toNat = b.toNat % 2 ^ 52 := by
  simp [unpackMantissa]

theorem toNat_unpackExponent : (@unpackExponent Format.binary64 b).toNat = b.toNat / 2 ^ 52 % 2 ^ 11 := by
  simp [unpackExponent, Nat.shiftRight_eq_div_pow]

theorem toNat_unpackSign : (@unpackSign Format.binary64 b).toNat = b.toNat / 2 ^ 63 := by
  have bound := b.isLt
  simp only [unpackSign, BitVec.toNat_cast, BitVec.extractLsb_toNat, Nat.shiftRight_eq_div_pow]
  exact Nat.mod_eq_of_lt (by omega)

theorem unpackMantissa_eq_zero : @unpackMantissa Format.binary64 b = 0#_ ↔ b.toNat % 2 ^ 52 = 0 := by
  rw [← BitVec.toNat_inj, toNat_unpackMantissa]
  rfl

theorem unpackExponent_eq_ones :
    @unpackExponent Format.binary64 b = -1#_ ↔ b.toNat / 2 ^ 52 % 2 ^ 11 = 2047 := by
  rw [← BitVec.toNat_inj, toNat_unpackExponent]
  rfl

theorem unpackExponent_eq_zero :
    @unpackExponent Format.binary64 b = 0#_ ↔ b.toNat / 2 ^ 52 % 2 ^ 11 = 0 := by
  rw [← BitVec.toNat_inj, toNat_unpackExponent]
  rfl

theorem ofBitVec_unpackSign_eq_negative :
    Sign.ofBitVec (@unpackSign Format.binary64 b) = .negative ↔ b.toNat / 2 ^ 63 = 1 := by
  have bound := b.isLt
  have zero : @unpackSign Format.binary64 b = 0#1 ↔ b.toNat / 2 ^ 63 = 0 := by
    rw [← BitVec.toNat_inj, toNat_unpackSign]
    rfl
  rw [Sign.ofBitVec]
  split
  · next h =>
    rw [zero] at h
    exact iff_of_false nofun (by omega)
  · next h =>
    rw [zero] at h
    exact iff_of_true rfl (by omega)

/-! ### What numbers stand for -/

/-- An opened number, read off what the number stands for. -/
def ofUnpacked? : UnpackedFloat → Option Binary
  | .infinity _ | .notANumber => none
  | .zero s => some ⟨s == .negative, 0, minExponent⟩
  | .finite s m e _ => some ⟨s == .negative, m, e⟩

theorem ofBitVec_unpackSign_beq :
    (Sign.ofBitVec (@unpackSign Format.binary64 b) == .negative) = decide (b.toNat / 2 ^ 63 = 1) := by
  rw [Bool.eq_iff_iff, decide_eq_true_eq, ← ofBitVec_unpackSign_eq_negative]
  cases Sign.ofBitVec (@unpackSign Format.binary64 b)
  · exact iff_of_true rfl rfl
  · exact iff_of_false nofun nofun

theorem ofFloat?_eq (x : Float) : ofFloat? x = ofUnpacked? x.toModel.unpack := by
  change _ = ofUnpacked? (unpack Format.binary64 x.toBits.toBitVec)
  generalize bits : x.toBits.toBitVec = b
  have value : x.toBits.toNat = b.toNat := by rw [← bits, UInt64.toNat_toBitVec]
  have bias : (Format.binary64.exponentBias : Int) + Format.binary64.mantissaBitsWithoutImplicit = 1075 := by decide
  rw [ofFloat?, value]
  unfold unpack
  simp only [toNat_unpackExponent, bias]
  change (if b.toNat / 2 ^ 52 % 2 ^ 11 = 2047 then _ else if b.toNat / 2 ^ 52 % 2 ^ 11 = 0 then _ else _) = _
  -- the field of the exponent has all bits set, none, or is that of a number with an implicit bit
  by_cases last : b.toNat / 2 ^ 52 % 2 ^ 11 = 2047
  · rw [if_pos last, if_pos ((unpackExponent_eq_ones b).2 last)]
    split <;> rfl
  rw [if_neg last, if_neg (mt (unpackExponent_eq_ones b).1 last)]
  by_cases first : b.toNat / 2 ^ 52 % 2 ^ 11 = 0
  · rw [if_pos first, if_pos ((unpackExponent_eq_zero b).2 first)]
    split
    · next zero =>
      rw [unpackMantissa_eq_zero] at zero
      change _ = some (Binary.mk _ 0 minExponent)
      rw [ofBitVec_unpackSign_beq]
      exact congrArg (fun m => some (Binary.mk _ m minExponent)) zero
    · change _ = some (Binary.mk _ _ _)
      rw [ofBitVec_unpackSign_beq, toNat_unpackMantissa, first]
      rfl
  · rw [if_neg first, if_neg (mt (unpackExponent_eq_zero b).1 first)]
    have mantissa : (1#1 ++ @unpackMantissa Format.binary64 b).toNat = 2 ^ 52 + b.toNat % 2 ^ 52 := by
      rw [← toNat_implicit (Nat.mod_lt _ (Nat.two_pow_pos 52)), ← toNat_unpackMantissa, BitVec.ofNat_toNat]
      rfl
    change _ = some (Binary.mk _ _ _)
    rw [ofBitVec_unpackSign_beq, mantissa]
    have exponent : minExponent + (b.toNat / 2 ^ 52 % 2 ^ 11 - 1 : Nat) = (b.toNat / 2 ^ 52 % 2 ^ 11 : Nat) - 1075 := by
      rw [minExponent]
      omega
    exact congrArg (fun e => some (Binary.mk _ _ e)) exponent

/-! ### Exact values -/

/-- The exact value of a number, if it is finite. -/
def value? (x : Float) : Option ℚ :=
  match x.toModel.unpack with
  | .infinity _ | .notANumber => none
  | .zero _ => some 0
  | .finite s m e _ => some (s.apply m * 2 ^ e)

theorem isSome_value? (x : Float) : (value? x).isSome = x.isFinite := by
  change _ = x.toModel.unpack.isFinite
  rw [value?]
  cases x.toModel.unpack <;> rfl

/-- The exact value of an opened number. -/
def value (d : Binary) : ℚ := (if d.negative then -1 else 1) * (d.mantissa * 2 ^ d.exponent)

theorem value?_eq (x : Float) : value? x = (ofFloat? x).map value := by
  rw [value?, ofFloat?_eq]
  cases x.toModel.unpack with
  | infinity s | notANumber => rfl
  | zero s => simp [ofUnpacked?, value]
  | finite s m e pos => cases s <;> simp [ofUnpacked?, value, Sign.apply]

variable (d : Binary)

theorem ratio_div : (d.ratio.1 : ℚ) / d.ratio.2 = d.mantissa * 2 ^ d.exponent := by
  change ((d.mantissa * 2 ^ d.exponent.toNat : Nat) : ℚ) / ((2 ^ (-d.exponent).toNat : Nat) : ℚ) = _
  obtain ⟨k, up | down⟩ := d.exponent.eq_nat_or_neg
  · simp [up]
  · simp [down, div_eq_mul_inv]

/-- A number is whole and of a given size iff that is its exact size. -/
theorem isWhole_and_truncate_iff (n : Nat) :
    d.isWhole = true ∧ d.truncate = n ↔ (d.mantissa : ℚ) * 2 ^ d.exponent = n := by
  have pos : 0 < d.ratio.2 := Nat.two_pow_pos _
  have cast : (d.ratio.1 : ℚ) / d.ratio.2 = n ↔ d.ratio.1 = n * d.ratio.2 := by
    rw [div_eq_iff (Nat.cast_ne_zero.2 pos.ne')]
    exact_mod_cast Iff.rfl
  rw [← ratio_div, cast, isWhole, beq_iff_eq, truncate]
  constructor
  · rintro ⟨whole, rfl⟩
    exact (Nat.div_mul_cancel (Nat.dvd_of_mod_eq_zero whole)).symm
  · intro multiple
    rw [multiple]
    exact ⟨Nat.mul_mod_left n _, Nat.mul_div_cancel n pos⟩

theorem abs_value : |d.value| = d.mantissa * 2 ^ d.exponent := by
  have size : (0 : ℚ) ≤ d.mantissa * 2 ^ d.exponent := by positivity
  rw [value]
  split <;> simp [abs_of_nonneg size]

theorem zero_le_iff {x : Float} {q : ℚ} (h : value? x = some q) : 0 ≤ x ↔ 0 ≤ q := by
  have le : 0 ≤ x ↔ ((UnpackedFloat.zero .positive).compare x.toModel.unpack).any (·.isLE) = true := by
    rw [← unpack_zero]
    change decide ((0 : Float).toModel ≤ x.toModel) = true ↔ _
    exact decide_eq_true_iff
  rw [le]
  rw [value?] at h
  cases opened : x.toModel.unpack with
  | infinity s | notANumber =>
    rw [opened] at h
    cases h
  | zero s =>
    rw [opened] at h
    cases h
    exact iff_of_true rfl le_rfl
  | finite s m e pos =>
    rw [opened] at h
    cases h
    have size : (0 : ℚ) < m * 2 ^ e := by positivity
    cases s with
    | negative => exact iff_of_false nofun (by simp only [Sign.apply]; push_cast; linarith)
    | positive => exact iff_of_true rfl (by simp only [Sign.apply]; push_cast; exact size.le)

/-! ### Numbers that are none -/

theorem unpack_eq_notANumber_iff {b : BitVec 64} :
    unpack Format.binary64 b = .notANumber ↔
      @unpackExponent Format.binary64 b = -1#_ ∧ @unpackMantissa Format.binary64 b ≠ 0#_ := by
  unfold unpack
  dsimp only
  split
  · split
    · next last zero => exact iff_of_false nofun fun h => h.2 zero
    · next last low => exact iff_of_true rfl ⟨last, low⟩
  · next last =>
    refine iff_of_false ?_ fun h => last h.1
    split
    · split <;> nofun
    · nofun

/-- Packing does not make a number into none. -/
theorem unpack_pack_ne_notANumber {u : UnpackedFloat} (h : u ≠ .notANumber) :
    unpack Format.binary64 (pack Format.binary64 u) ≠ .notANumber := by
  rw [ne_eq, unpack_eq_notANumber_iff]
  rintro ⟨last, low⟩
  cases u with
  | notANumber => exact h rfl
  | infinity s => exact low unpackMantissa_packComponents
  | zero s => exact low unpackMantissa_packComponents
  | finite s m e pos =>
    unfold pack at last low
    dsimp only at last low
    split at last
    · next large =>
      rw [if_pos large] at low
      exact low unpackMantissa_packComponents
    · next small =>
      -- a normal number has an exponent below the last one, and a subnormal one has the first
      split at last
      all_goals rw [unpackExponent_packComponents] at last
      · have field := congrArg BitVec.toNat last
        change _ % 2 ^ 11 = 2047 at field
        change ¬ 2 ^ 11 ≤ _ + 1 at small
        omega
      · exact absurd (congrArg BitVec.toNat last) (by decide)

theorem isNaN_ofBits {n : Nat} (h : n % 2 ^ 63 ≤ 2047 * 2 ^ 52) : (Float.ofBits (UInt64.ofNat n)).isNaN = false := by
  rw [← Bool.not_eq_true, isNaN_iff]
  change unpack Format.binary64 (pack Format.binary64 (unpack Format.binary64 (BitVec.ofNat 64 n))) ≠ .notANumber
  refine unpack_pack_ne_notANumber fun none => ?_
  rw [unpack_eq_notANumber_iff, unpackExponent_eq_ones, ne_eq, unpackMantissa_eq_zero, BitVec.toNat_ofNat] at none
  omega

/-- A rounded fraction is a number. -/
theorem isNaN_ofRatio (negative : Bool) (num den : Nat) : (ofRatio negative num den).isNaN = false := by
  unfold ofRatio
  dsimp only
  have bound (bits : Nat) : (if num = 0 then 0 else min bits (2047 * 2 ^ 52)) ≤ 2047 * 2 ^ 52 := by
    split
    · exact Nat.zero_le _
    · exact Nat.min_le_right _ _
  apply isNaN_ofBits
  -- the sign aside, the bits are at most those of infinity
  generalize hb : (if num = 0 then 0 else min _ _) = bits
  have least := hb ▸ bound _
  have sign : (if negative = true then Nat.pow 2 63 else 0) % 2 ^ 63 = 0 := by cases negative <;> rfl
  generalize (if negative = true then Nat.pow 2 63 else 0) = s at *
  omega

end Binary

theorem isNaN_ofWhole (n : Int) : (ofWhole n).isNaN = false := Binary.isNaN_ofRatio _ _ _

theorem Decimal.isNaN_toFloat (negative : Bool) (d : Decimal) : (d.toFloat negative).isNaN = false := by
  unfold toFloat
  dsimp only
  split
  · exact Binary.isNaN_ofRatio _ _ _
  · split
    · cases negative <;> decide +kernel
    · exact Binary.isNaN_ofRatio _ _ _

/-! ### Offsets of recorder calls -/

namespace Recorder

open Machine (Value)
open Binary

/-- The offset that a number gives is its exact value, if that is a natural number, cut off at the greatest. -/
theorem offset?_number_eq_some_iff (x : Float) (k : Nat) :
    offset? (some (.number x)) = some k ↔ ∃ n : Nat, value? x = some (n : ℚ) ∧ k = min n maxOffset := by
  unfold offset?
  dsimp only
  cases opened : ofFloat? x with
  | none =>
    have none : value? x = none := by rw [value?_eq, opened]; rfl
    rw [none]
    exact iff_of_false nofun fun ⟨_, h, _⟩ => nomatch h
  | some d =>
    have finite : value? x = some d.value := by rw [value?_eq, opened]; rfl
    have size (h : 0 ≤ d.value) : d.value = d.mantissa * 2 ^ d.exponent := by rw [← abs_value, abs_of_nonneg h]
    dsimp only
    rw [finite]
    split
    · next valid =>
      rw [Bool.and_eq_true, decide_eq_true_eq, zero_le_iff finite] at valid
      have whole : d.value = (d.truncate : ℚ) := (size valid.2).trans ((isWhole_and_truncate_iff d _).1 ⟨valid.1, rfl⟩)
      rw [whole]
      constructor
      · intro h
        exact ⟨d.truncate, rfl, (Option.some.inj h).symm⟩
      · rintro ⟨n, same, rfl⟩
        rw [Nat.cast_inj.1 (Option.some.inj same)]
    · next invalid =>
      refine iff_of_false nofun fun ⟨n, same, _⟩ => invalid ?_
      have natural : d.value = n := Option.some.inj same
      have nonneg : 0 ≤ d.value := natural ▸ Nat.cast_nonneg n
      rw [Bool.and_eq_true, decide_eq_true_eq, zero_le_iff finite]
      exact ⟨((isWhole_and_truncate_iff d n).2 ((size nonneg).symm.trans natural)).1, nonneg⟩

end Recorder

end ScriptCoverage
