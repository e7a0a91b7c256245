import ScriptCoverage.Number.Binary

/-!
Decimal texts of numbers. `Decimal.shortest` is the number with the fewest decimal digits that reads
back as a given one, and of those the nearest; `fixedText` gives a fixed number of places, a tie to the
even digit; `numberText` is the text that scripts see. None of them ever writes an exponent. The other
way round, `Decimal.toFloat` reads a decimal number correctly rounded.
-/

namespace ScriptCoverage

/-- The number `digits * 10^exponent`. -/
structure Decimal where
  digits : Nat
  exponent : Int
  deriving DecidableEq, Inhabited, Repr

namespace Decimal

/-! ### Texts without an exponent -/

/-- Digits with a point in front of the last `places` of them. -/
def pointed (digits places : Nat) : String :=
  let text := (toString digits).toList
  if places = 0 then String.ofList text
  else
    let padded := List.replicate (places + 1 - text.length) '0' ++ text
    String.ofList (padded.take (padded.length - places) ++ '.' :: padded.drop (padded.length - places))

/-- The digits of a decimal number at their places. -/
def positional (d : Decimal) : String :=
  if 0 ≤ d.exponent then toString (d.digits * Nat.pow 10 d.exponent.toNat) else pointed d.digits (-d.exponent).toNat

/-! ### The shortest text -/

/-- The size of a number in units of `10^exponent`, as numerator and denominator; the numerator is
`scale` times the mantissa. -/
structure Grid where
  scale : Nat
  den : Nat

def grid (d : Binary) (exponent : Int) : Grid :=
  ⟨Nat.pow 2 d.exponent.toNat * Nat.pow 10 (-exponent).toNat, Nat.pow 2 (-d.exponent).toNat * Nat.pow 10 exponent.toNat⟩

/-- Whether `c` units lie in the interval of values that round to the mantissa `m`. The interval is
half as wide below a mantissa that is the least of its exponent, and its ends belong to it iff the
mantissa is even. -/
def inInterval (m : Nat) (narrow : Bool) (g : Grid) (c : Nat) : Bool :=
  let low := (4 * m - if narrow then 1 else 2) * g.scale
  let high := (4 * m + 2) * g.scale
  let at_ := 4 * c * g.den
  if m % 2 = 0 then low ≤ at_ && at_ ≤ high else low < at_ && at_ < high

/-- The point of the grid that reads back as the number, the nearer one if two do and the upper one
of two equally near. -/
def onGrid? (d : Binary) (exponent : Int) : Option Nat :=
  let g := grid d exponent
  let narrow := d.mantissa = Nat.pow 2 52 && Binary.minExponent < d.exponent
  let c := d.mantissa * g.scale / g.den
  let below := inInterval d.mantissa narrow g c
  let above := inInterval d.mantissa narrow g (c + 1)
  if below && above then
    if d.mantissa * g.scale - c * g.den < (c + 1) * g.den - d.mantissa * g.scale then some c else some (c + 1)
  else if below then some c
  else if above then some (c + 1)
  else none

/-- The power of ten of the leading digit of a positive number. -/
def leadingPower (d : Binary) : Int :=
  let (num, den) := d.ratio
  let guess := Int.fdiv (((num.log2 : Int) - den.log2) * 30103) 100000
  let reaches (k : Int) : Bool := den * Nat.pow 10 k.toNat ≤ num * Nat.pow 10 (-k).toNat
  if reaches (guess + 1) then guess + 1 else if reaches guess then guess else guess - 1

/-- A last zero, which a nine that was rounded up leaves behind, moves into the exponent. -/
def dropZero (d : Decimal) : Decimal :=
  if d.digits % 10 = 0 && d.digits != 0 then ⟨d.digits / 10, d.exponent + 1⟩ else d

/-- The number with the fewest digits that reads back as `d`, found on ever finer grids. Seventeen
digits always suffice. -/
def shortest (d : Binary) : Decimal :=
  let k := leadingPower d
  ((List.range 17).findSome? fun n =>
    (onGrid? d (k - (n : Nat))).map fun c => dropZero ⟨c, k - (n : Nat)⟩).getD ⟨0, 0⟩

/-! ### Reading -/

/-- The number nearest to a decimal one. Exponents beyond all numbers are cut off before any power
is computed. -/
def toFloat (negative : Bool) (d : Decimal) : Float :=
  let leading := d.exponent + (toString d.digits).length
  if d.digits = 0 || leading < -400 then Binary.ofRatio negative 0 1
  else if 400 < leading then (if negative then -1.0 / 0.0 else 1.0 / 0.0)
  else Binary.ofRatio negative (d.digits * Nat.pow 10 d.exponent.toNat) (Nat.pow 10 (-d.exponent).toNat)

end Decimal

/-! ### Texts of numbers -/

def signed (negative : Bool) (text : String) : String := if negative then "-" ++ text else text

/-- The text of a number that is not finite. -/
def specialText (x : Float) : String :=
  if x.isNaN then "NaN" else if 0.0 < x then "Infinity" else "-Infinity"

/-- A number with `places` decimal places of its exact value; negative numbers keep their sign when
they round to zero. -/
def fixedText (places : Nat) (d : Binary) : String :=
  let (num, den) := d.ratio
  signed d.negative (Decimal.pointed (roundDivEven (num * Nat.pow 10 places) den) places)

/-- The shortest text that reads back as the number, without an exponent. -/
def shortestText (d : Binary) : String :=
  signed d.negative (if d.mantissa = 0 then "0" else (Decimal.shortest d).positional)

/-- The text of a number in scripts: all digits of whole numbers below `10^21`, the shortest text of
others, and zero without a sign. -/
def numberText (x : Float) : String :=
  match Binary.ofFloat? x with
  | none => specialText x
  | some d =>
    if d.mantissa = 0 then "0"
    else if d.isWhole && d.truncate < Nat.pow 10 21 then fixedText 0 d
    else shortestText d

/-- The text of a number in a report, which tells the two zeros apart. -/
def signedNumberText (x : Float) : String :=
  match Binary.ofFloat? x with
  | some ⟨true, 0, _⟩ => "-0"
  | _ => numberText x

/-- The spelling of a number literal that has none of its own. -/
def literalText (x : Float) : String :=
  match Binary.ofFloat? x with
  | none => specialText x
  | some d => shortestText d

end ScriptCoverage
