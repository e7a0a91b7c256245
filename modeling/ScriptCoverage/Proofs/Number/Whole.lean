import Mathlib
import ScriptCoverage.Coverage.Recorder

/-!
Whole numbers as binary floating-point numbers. Main statements, about the offsets that calls of a recorder are
given: `offset?_ofWhole` — an offset below `2 ^ 53` is read as what it is — and `isSome_offset?_ofWhole` — one
below `2 ^ 64` is read as some offset.
-/

namespace ScriptCoverage

/-! ### Bits of positive numbers -/

namespace Binary

open Float.Model (Format)
open Float.Model.UnpackedFloat

variable {field low : Nat}

/-- The bits of a positive number that is neither subnormal nor infinite, taken apart. -/
theorem ofNat_eq_packComponents (hf : field < 2 ^ 11) (hl : low < 2 ^ 52) :
    BitVec.ofNat 64 (field * 2 ^ 52 + low) =
      packComponents Format.binary64 .positive (BitVec.ofNat 11 field) (BitVec.ofNat 52 low) := by
  apply BitVec.eq_of_toNat_eq
  have sign : (Sign.positive.toBitVec ++ BitVec.ofNat 11 field).toNat = field := by
    rw [BitVec.toNat_append, BitVec.toNat_ofNat, Nat.mod_eq_of_lt hf]
    exact Nat.zero_or field
  have mantissa : (BitVec.ofNat 52 low).toNat = low := by rw [BitVec.toNat_ofNat, Nat.mod_eq_of_lt hl]
  rw [packComponents, BitVec.toNat_append, sign, mantissa, ← Nat.shiftLeft_add_eq_or_of_lt hl, Nat.shiftLeft_eq,
    BitVec.toNat_ofNat, Nat.mod_eq_of_lt (by omega)]

theorem unpackSign_packComponents {f : Format} (s : Sign) (e : BitVec f.exponentBits)
    (m : BitVec f.mantissaBitsWithoutImplicit) : unpackSign (packComponents f s e m) = s.toBitVec := by
  apply BitVec.eq_of_getLsbD_eq
  intro i hi
  obtain rfl : i = 0 := by omega
  simp [unpackSign, packComponents, BitVec.getLsbD_append, BitVec.getElem_append]

theorem toNat_implicit (hl : low < 2 ^ 52) : (1#1 ++ BitVec.ofNat 52 low).toNat = 2 ^ 52 + low := by
  have mantissa : (BitVec.ofNat 52 low).toNat = low := by rw [BitVec.toNat_ofNat, Nat.mod_eq_of_lt hl]
  rw [BitVec.toNat_append, mantissa, ← Nat.shiftLeft_add_eq_or_of_lt hl, Nat.shiftLeft_eq]
  rfl

/-- What a positive number that is neither subnormal nor infinite stands for. -/
theorem unpack_normal (h0 : 0 < field) (h1 : field < 2047) (hl : low < 2 ^ 52) :
    unpack Format.binary64
        (packComponents Format.binary64 .positive (BitVec.ofNat 11 field) (BitVec.ofNat 52 low)) =
      .finite .positive (2 ^ 52 + low) (field - 1075) (by omega) := by
  have value : (BitVec.ofNat 11 field).toNat = field := by rw [BitVec.toNat_ofNat, Nat.mod_eq_of_lt (by omega)]
  have finite : BitVec.ofNat 11 field ≠ -1#11 := fun h => by
    have := congrArg BitVec.toNat h
    rw [value] at this
    exact absurd this (by simp; omega)
  have normal : BitVec.ofNat 11 field ≠ 0#11 := fun h => by
    have := congrArg BitVec.toNat h
    rw [value] at this
    exact absurd this (by simp; omega)
  unfold unpack
  simp only [unpackMantissa_packComponents, unpackExponent_packComponents, unpackSign_packComponents]
  rw [if_neg finite, if_neg normal]
  congr 1
  · exact toNat_implicit hl
  · rw [value]
    simp [Format.exponentBias]

theorem pack_normal (h0 : 0 < field) (h1 : field < 2047) (hl : low < 2 ^ 52) (pos : 0 < 2 ^ 52 + low) :
    pack Format.binary64 (.finite .positive (2 ^ 52 + low) (field - 1075) pos) =
      packComponents Format.binary64 .positive (BitVec.ofNat 11 field) (BitVec.ofNat 52 low) := by
  have log : (2 ^ 52 + low).log2 + 1 = Format.binary64.mantissaBits := by
    have : (2 ^ 52 + low).log2 = 52 := (Nat.log2_eq_iff (by omega)).2 ⟨by omega, by omega⟩
    rw [this]
    rfl
  have biased : ((field : Int) - 1075 + Format.binary64.exponentBias +
      Format.binary64.mantissaBitsWithoutImplicit).toNat = field := by
    simp only [Format.exponentBias]
    omega
  have mantissa : BitVec.ofNat 52 (2 ^ 52 + low) = BitVec.ofNat 52 low := by
    apply BitVec.eq_of_toNat_eq
    rw [BitVec.toNat_ofNat, BitVec.toNat_ofNat, Nat.add_mod_left]
  unfold pack
  simp only [biased]
  rw [if_neg (by simp; omega), if_pos log, mantissa]

/-- The number with given bits. -/
def ofFields (field low : Nat) : Float := Float.ofBits (UInt64.ofNat (field * 2 ^ 52 + low))

theorem toBits_ofFields (h0 : 0 < field) (h1 : field < 2047) (hl : low < 2 ^ 52) :
    (ofFields field low).toBits.toBitVec =
      packComponents Format.binary64 .positive (BitVec.ofNat 11 field) (BitVec.ofNat 52 low) := by
  change pack Format.binary64 (unpack Format.binary64 (BitVec.ofNat 64 (field * 2 ^ 52 + low))) = _
  rw [ofNat_eq_packComponents (by omega) hl, unpack_normal h0 h1 hl, pack_normal h0 h1 hl]

theorem toNat_toBits_ofFields (h0 : 0 < field) (h1 : field < 2047) (hl : low < 2 ^ 52) :
    (ofFields field low).toBits.toNat = field * 2 ^ 52 + low := by
  have bits : (ofFields field low).toBits.toBitVec = BitVec.ofNat 64 (field * 2 ^ 52 + low) :=
    (toBits_ofFields h0 h1 hl).trans (ofNat_eq_packComponents (by omega) hl).symm
  rw [← UInt64.toNat_toBitVec, bits, BitVec.toNat_ofNat, Nat.mod_eq_of_lt (by omega)]

theorem ofFloat?_ofFields (h0 : 0 < field) (h1 : field < 2047) (hl : low < 2 ^ 52) :
    ofFloat? (ofFields field low) = some ⟨false, 2 ^ 52 + low, field - 1075⟩ := by
  have exponent : (field * 2 ^ 52 + low) / Nat.pow 2 52 % Nat.pow 2 11 = field := by
    change (field * 2 ^ 52 + low) / 2 ^ 52 % 2 ^ 11 = field
    omega
  have rest : (field * 2 ^ 52 + low) % Nat.pow 2 52 = low := by
    change (field * 2 ^ 52 + low) % 2 ^ 52 = low
    omega
  have positive : (field * 2 ^ 52 + low) / Nat.pow 2 63 ≠ 1 := by
    change (field * 2 ^ 52 + low) / 2 ^ 63 ≠ 1
    omega
  rw [ofFloat?, toNat_toBits_ofFields h0 h1 hl]
  simp only [exponent, rest, positive]
  rw [if_neg (by omega), if_neg (by omega)]
  have shift : minExponent + (field - 1 : Nat) = (field : Int) - 1075 := by
    rw [minExponent]
    omega
  rw [shift]
  rfl

theorem unpack_zero : (0 : Float).toModel.unpack = .zero .positive := by
  have bits : (0 : Float).toModel.toBits = 0 := by decide +kernel
  rw [Float.Model.unpack, bits]
  rfl

theorem ofFields_nonneg (h0 : 0 < field) (h1 : field < 2047) (hl : low < 2 ^ 52) : 0 ≤ ofFields field low := by
  have number : (ofFields field low).toModel.unpack = .finite .positive (2 ^ 52 + low) (field - 1075) (by omega) := by
    rw [Float.Model.unpack]
    exact (congrArg _ (toBits_ofFields h0 h1 hl)).trans (unpack_normal h0 h1 hl)
  change Float.le 0 (ofFields field low) = true
  rw [Float.le]
  have less : (0 : Float).toModel ≤ (ofFields field low).toModel := by
    change Float.Model.le _ _ = true
    rw [Float.Model.le, unpack_zero, number]
    rfl
  exact decide_eq_true less

/-! ### Rounding whole numbers -/

theorem roundDivEven_one (n : Nat) : roundDivEven n 1 = n := by
  simp [roundDivEven, Nat.mod_one]

/-- A rounded quotient is the whole part of the quotient or one more. -/
theorem le_roundDivEven (num den : Nat) :
    num / den ≤ roundDivEven num den ∧ roundDivEven num den ≤ num / den + 1 := by
  simp only [roundDivEven]
  split
  · omega
  · split
    · omega
    · omega

/-- A whole number divided by a power of two, rounded. -/
def scaled (n : Nat) (e : Int) : Nat := roundDivEven (n * 2 ^ (-e).toNat) (2 ^ e.toNat)

/-- The exponent that a whole number gets. -/
def wholeExponent (n : Nat) : Int :=
  if scaled n (n.log2 - 53) ≤ 2 ^ 53 then n.log2 - 53 else n.log2 - 52

theorem ofWhole_eq {n : Nat} (h : n ≠ 0) :
    ofWhole n = Float.ofBits (UInt64.ofNat
      (min ((wholeExponent n + 1074).toNat * 2 ^ 52 + scaled n (wholeExponent n)) (2047 * 2 ^ 52))) := by
  have positive : ¬ (n : Int) < 0 := by omega
  have least : max minExponent ((n.log2 : Int) - (1 : Nat).log2 - 52 - 1) = (n.log2 : Int) - 53 := by
    have one : Nat.log2 1 = 0 := by decide
    rw [one, minExponent]
    omega
  have next : (n.log2 : Int) - 53 + 1 = n.log2 - 52 := by omega
  have round (e : Int) : roundDivEven (n * Nat.pow 2 (-e).toNat) (1 * Nat.pow 2 e.toNat) = scaled n e := by
    rw [Nat.one_mul]
    rfl
  have pow (k : Nat) : Nat.pow 2 k = 2 ^ k := rfl
  have unsigned (bits : Nat) : bits + (if false = true then 2 ^ 63 else 0) = bits := rfl
  have start (e : Int) : e - minExponent = e + 1074 := by rw [minExponent]; omega
  simp only [ofWhole, ofRatio, positive, least, next, round, Int.natAbs_natCast, h, if_false, decide_false]
  simp only [pow, start]
  rw [unsigned, ← wholeExponent]

/-- A whole number scaled to 53 bits. -/
theorem mantissa_bounds {n : Nat} (h0 : n ≠ 0) (log : n.log2 ≤ 52) :
    2 ^ 52 ≤ n * 2 ^ (52 - n.log2) ∧ n * 2 ^ (52 - n.log2) < 2 ^ 53 := by
  have above : 2 ^ n.log2 ≤ n := Nat.log2_self_le h0
  have below : n < 2 ^ (n.log2 + 1) := Nat.lt_log2_self
  have split : 2 ^ n.log2 * 2 ^ (52 - n.log2) = 2 ^ 52 := by
    rw [← Nat.pow_add, Nat.add_sub_cancel' log]
  refine ⟨split ▸ Nat.mul_le_mul_right _ above, ?_⟩
  calc
    n * 2 ^ (52 - n.log2) < 2 ^ (n.log2 + 1) * 2 ^ (52 - n.log2) := Nat.mul_lt_mul_of_pos_right below (Nat.two_pow_pos _)
    _ = 2 * 2 ^ 52 := by rw [Nat.pow_succ', Nat.mul_assoc, split]

/-- Below `2 ^ 53` nothing is rounded. -/
theorem ofWhole_of_lt {n : Nat} (h0 : n ≠ 0) (h : n < 2 ^ 53) :
    ofWhole n = ofFields (n.log2 + 1023) (n * 2 ^ (52 - n.log2) - 2 ^ 52) := by
  have log : n.log2 < 53 := (Nat.log2_lt h0).2 h
  obtain ⟨low, upper⟩ := mantissa_bounds h0 (by omega)
  have double : 2 ^ (53 - n.log2) = 2 * 2 ^ (52 - n.log2) := by
    rw [← Nat.pow_succ']
    congr 1
    omega
  have first : scaled n (n.log2 - 53) = 2 * (n * 2 ^ (52 - n.log2)) := by
    have up : (-((n.log2 : Int) - 53)).toNat = 53 - n.log2 := by omega
    have down : ((n.log2 : Int) - 53).toNat = 0 := by omega
    rw [scaled, up, down, Nat.pow_zero, roundDivEven_one, double, Nat.mul_left_comm]
  have second : scaled n (n.log2 - 52) = n * 2 ^ (52 - n.log2) := by
    have up : (-((n.log2 : Int) - 52)).toNat = 52 - n.log2 := by omega
    have down : ((n.log2 : Int) - 52).toNat = 0 := by omega
    rw [scaled, up, down, Nat.pow_zero, roundDivEven_one]
  have bits : min ((wholeExponent n + 1074).toNat * 2 ^ 52 + scaled n (wholeExponent n)) (2047 * 2 ^ 52) =
      (n.log2 + 1023) * 2 ^ 52 + (n * 2 ^ (52 - n.log2) - 2 ^ 52) := by
    clear double
    generalize n * 2 ^ (52 - n.log2) = s at *
    rw [wholeExponent, first]
    split
    · have field : ((n.log2 : Int) - 53 + 1074).toNat = n.log2 + 1021 := by omega
      rw [first, field]
      omega
    · have field : ((n.log2 : Int) - 52 + 1074).toNat = n.log2 + 1022 := by omega
      rw [second, field]
      omega
  rw [ofWhole_eq h0, ofFields, bits]

/-- Between `2 ^ 53` and `2 ^ 64` all numbers are whole. -/
theorem ofWhole_of_le {n : Nat} (h0 : 2 ^ 53 ≤ n) (h : n < 2 ^ 64) :
    ∃ field low, 1075 ≤ field ∧ field < 2047 ∧ low < 2 ^ 52 ∧ ofWhole n = ofFields field low := by
  have pos : n ≠ 0 := by omega
  have log : n.log2 < 64 := (Nat.log2_lt pos).2 h
  have least : 53 ≤ n.log2 := (Nat.le_log2 pos).2 h0
  have above : 2 ^ n.log2 ≤ n := Nat.log2_self_le pos
  have below : n < 2 ^ (n.log2 + 1) := Nat.lt_log2_self
  have round (k : Nat) (hk : k ≤ n.log2) : 2 ^ (n.log2 - k) ≤ scaled n k ∧ scaled n k ≤ 2 ^ (n.log2 + 1 - k) := by
    have up : (-(k : Int)).toNat = 0 := by omega
    have lower : 2 ^ (n.log2 - k) ≤ n / 2 ^ k := by
      rw [Nat.le_div_iff_mul_le (Nat.two_pow_pos k), ← Nat.pow_add, Nat.sub_add_cancel hk]
      exact above
    have upper : n / 2 ^ k < 2 ^ (n.log2 + 1 - k) := by
      rw [Nat.div_lt_iff_lt_mul (Nat.two_pow_pos k), ← Nat.pow_add, Nat.sub_add_cancel (by omega)]
      exact below
    have near := le_roundDivEven n (2 ^ k)
    rw [scaled, up, Nat.pow_zero, Nat.mul_one, Int.toNat_natCast]
    omega
  -- so many bits of the number are dropped that at most 53 are left, and one more place if rounding carries
  obtain ⟨k, hk, small, lower, upper⟩ :
      ∃ k : Nat, wholeExponent n = k ∧ k < 12 ∧ 2 ^ 52 ≤ scaled n k ∧ scaled n k ≤ 2 ^ 53 := by
    have first : ((n.log2 - 53 : Nat) : Int) = n.log2 - 53 := by omega
    have second : ((n.log2 - 52 : Nat) : Int) = n.log2 - 52 := by omega
    rw [wholeExponent, ← first, ← second]
    have bounds := round (n.log2 - 52) (by omega)
    rw [show n.log2 - (n.log2 - 52) = 52 by omega, show n.log2 + 1 - (n.log2 - 52) = 53 by omega] at bounds
    split
    · have exact := (round (n.log2 - 53) (by omega)).1
      rw [show n.log2 - (n.log2 - 53) = 53 by omega] at exact
      exact ⟨n.log2 - 53, rfl, by omega, by omega, by assumption⟩
    · exact ⟨n.log2 - 52, rfl, by omega, bounds⟩
  have bits : ofWhole n = Float.ofBits (UInt64.ofNat ((k + 1074) * 2 ^ 52 + scaled n k)) := by
    have field : ((k : Int) + 1074).toNat = k + 1074 := by omega
    rw [ofWhole_eq pos, hk, field, Nat.min_eq_left (by omega)]
  rw [bits]
  clear round bits
  generalize scaled n k = s at *
  -- rounding up to the next power of two carries into the exponent
  by_cases hs : s = 2 ^ 53
  · refine ⟨k + 1076, 0, by omega, by omega, by omega, ?_⟩
    rw [ofFields, hs, show (k + 1074) * 2 ^ 52 + 2 ^ 53 = (k + 1076) * 2 ^ 52 + 0 by omega]
  · refine ⟨k + 1075, s - 2 ^ 52, by omega, by omega, by omega, ?_⟩
    rw [ofFields, show (k + 1074) * 2 ^ 52 + s = (k + 1075) * 2 ^ 52 + (s - 2 ^ 52) by omega]

/-! ### Exact values -/

theorem ofFloat?_ofWhole_of_lt {n : Nat} (h0 : n ≠ 0) (h : n < 2 ^ 53) :
    ofFloat? (ofWhole n) = some ⟨false, n * 2 ^ (52 - n.log2), n.log2 - 52⟩ := by
  have log : n.log2 < 53 := (Nat.log2_lt h0).2 h
  obtain ⟨lower, upper⟩ := mantissa_bounds h0 (by omega)
  rw [ofWhole_of_lt h0 h, ofFloat?_ofFields (by omega) (by omega) (by omega)]
  have mantissa : 2 ^ 52 + (n * 2 ^ (52 - n.log2) - 2 ^ 52) = n * 2 ^ (52 - n.log2) := by omega
  have exponent : ((n.log2 + 1023 : Nat) : Int) - 1075 = n.log2 - 52 := by omega
  rw [mantissa, exponent]

end Binary

/-! ### Offsets of recorder calls -/

namespace Recorder

open Machine (Value)
open Binary

theorem offset?_zero : offset? (some (.number (ofWhole 0))) = some 0 := by decide +kernel

/-- An offset that a number represents is read as what it is. -/
theorem offset?_ofWhole {n : Nat} (h : n < 2 ^ 53) : offset? (some (.number (ofWhole n))) = some n := by
  by_cases h0 : n = 0
  · subst h0
    exact offset?_zero
  have log : n.log2 < 53 := (Nat.log2_lt h0).2 h
  obtain ⟨lower, upper⟩ := mantissa_bounds h0 (by omega)
  have ratio : Binary.ratio ⟨false, n * 2 ^ (52 - n.log2), n.log2 - 52⟩ = (n * 2 ^ (52 - n.log2), 2 ^ (52 - n.log2)) := by
    have up : ((n.log2 : Int) - 52).toNat = 0 := by omega
    have down : (-((n.log2 : Int) - 52)).toNat = 52 - n.log2 := by omega
    simp only [Binary.ratio, up, down]
    exact congrArg (·, 2 ^ (52 - n.log2)) (Nat.mul_one _)
  have whole : Binary.isWhole ⟨false, n * 2 ^ (52 - n.log2), n.log2 - 52⟩ = true := by
    rw [Binary.isWhole, ratio]
    simp
  have value : Binary.truncate ⟨false, n * 2 ^ (52 - n.log2), n.log2 - 52⟩ = n := by
    rw [Binary.truncate, ratio]
    exact Nat.mul_div_cancel n (Nat.two_pow_pos _)
  have positive : 0 ≤ ofWhole n := by
    rw [ofWhole_of_lt h0 h]
    exact ofFields_nonneg (by omega) (by omega) (by omega)
  rw [offset?, ofFloat?_ofWhole_of_lt h0 h]
  simp only [whole, positive, value, decide_true, Bool.and_self, if_true]
  have least : n ≤ maxOffset := by
    change n ≤ 2 ^ 64 - 1
    omega
  exact congrArg some (Nat.min_eq_left least)

/-- An offset of a machine word is read as some offset. -/
theorem isSome_offset?_ofWhole {n : Nat} (h : n < 2 ^ 64) : (offset? (some (.number (ofWhole n)))).isSome := by
  by_cases small : n < 2 ^ 53
  · rw [offset?_ofWhole small]
    rfl
  obtain ⟨field, low, least, most, hl, eq⟩ := ofWhole_of_le (by omega) h
  have whole : Binary.isWhole ⟨false, 2 ^ 52 + low, (field : Int) - 1075⟩ = true := by
    have down : (-((field : Int) - 1075)).toNat = 0 := by omega
    simp only [Binary.isWhole, Binary.ratio, down]
    exact beq_iff_eq.2 (Nat.mod_one _)
  have positive : 0 ≤ ofFields field low := ofFields_nonneg (by omega) most hl
  rw [eq, offset?, ofFloat?_ofFields (by omega) most hl]
  simp only [whole, positive, decide_true, Bool.and_self, if_true]
  rfl

end Recorder

end ScriptCoverage
