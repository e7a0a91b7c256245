/-!
Binary floating-point numbers as exact fractions. `Binary.ofFloat?` opens a finite number into a sign,
a whole mantissa and a power of two; `Binary.ofRatio` goes the other way and rounds a fraction to the
nearest number, a tie to the even mantissa. All exact text and integer conversions start from here.
-/

namespace ScriptCoverage

/-! ### Rounding a quotient -/

/-- The whole number nearest to `num / den`; a half goes to the even neighbour. -/
def roundDivEven (num den : Nat) : Nat :=
  let q := num / den
  let twice := 2 * (num % den)
  if twice < den then q else if den < twice then q + 1 else q + q % 2

/-! ### Opening and closing numbers -/

/-- The number `(-1)^negative * mantissa * 2^exponent`. -/
structure Binary where
  negative : Bool
  mantissa : Nat
  exponent : Int
  deriving DecidableEq, Inhabited, Repr

/-- The least exponent of a number, that of the subnormal ones. -/
def Binary.minExponent : Int := -1074

/-- The exact value of a finite number. -/
def Binary.ofFloat? (x : Float) : Option Binary :=
  let bits := x.toBits.toNat
  let field := bits / Nat.pow 2 52 % Nat.pow 2 11
  let low := bits % Nat.pow 2 52
  let negative := bits / Nat.pow 2 63 = 1
  if field = 2047 then none
  else if field = 0 then some ⟨negative, low, Binary.minExponent⟩
  else some ⟨negative, Nat.pow 2 52 + low, Binary.minExponent + (field - 1 : Nat)⟩

namespace Binary

/-- Numerator and denominator of the size of a number. -/
def ratio (d : Binary) : Nat × Nat :=
  (d.mantissa * Nat.pow 2 d.exponent.toNat, Nat.pow 2 (-d.exponent).toNat)

/-- The number nearest to `num / den`; what is too large becomes infinite. -/
def ofRatio (negative : Bool) (num den : Nat) : Float :=
  let guess : Int := (num.log2 : Int) - den.log2 - 52
  let scaled (e : Int) : Nat := roundDivEven (num * Nat.pow 2 (-e).toNat) (den * Nat.pow 2 e.toNat)
  let low := max minExponent (guess - 1)
  let exponent := if scaled low ≤ Nat.pow 2 53 then low else low + 1
  let bits := (exponent - minExponent).toNat * Nat.pow 2 52 + scaled exponent
  let bits := if num = 0 then 0 else min bits (2047 * Nat.pow 2 52)
  Float.ofBits (UInt64.ofNat (bits + if negative then Nat.pow 2 63 else 0))

/-- The whole part of the size of a number. -/
def truncate (d : Binary) : Nat := d.ratio.1 / d.ratio.2

/-- Whether the number is a whole one. -/
def isWhole (d : Binary) : Bool := d.ratio.1 % d.ratio.2 == 0

end Binary

/-! ### Whole parts and remainders -/

/-- The whole part of a number, toward zero; `none` for what is not finite. -/
def truncate? (x : Float) : Option Int :=
  (Binary.ofFloat? x).map fun d => if d.negative then -(d.truncate : Int) else d.truncate

/-- Whether a number is finite and whole. -/
def isWhole (x : Float) : Bool :=
  match Binary.ofFloat? x with
  | some d => d.isWhole
  | none => false

/-- The remainder of a truncating division, exact, with the sign of the dividend. -/
def remainder (x y : Float) : Float :=
  match Binary.ofFloat? x, Binary.ofFloat? y with
  | some a, some b =>
    if b.mantissa = 0 then 0.0 / 0.0
    else
      let e := min a.exponent b.exponent
      let r := (a.mantissa * Nat.pow 2 (a.exponent - e).toNat) % (b.mantissa * Nat.pow 2 (b.exponent - e).toNat)
      Binary.ofRatio a.negative (r * Nat.pow 2 e.toNat) (Nat.pow 2 (-e).toNat)
  | some _, none => if y.isNaN then y else x
  | none, _ => 0.0 / 0.0

/-- The residue of a number's whole part modulo `2 ^ 32`, as an unsigned number; zero for what is not finite. -/
def wrap32 (x : Float) : Nat := ((truncate? x).getD 0 % (Nat.pow 2 32 : Nat)).toNat

/-- The same residue as a signed number. -/
def wrapSigned32 (x : Float) : Int :=
  let n := wrap32 x
  if n < Nat.pow 2 31 then n else (n : Int) - (Nat.pow 2 32 : Nat)

/-- The number nearest to a whole one. -/
def ofWhole (n : Int) : Float := Binary.ofRatio (n < 0) n.natAbs 1

end ScriptCoverage
