import ScriptCoverage.Number.Decimal
import ScriptCoverage.Text.Cut

/-!
Numbers read from texts: whole texts (`decimal?`, `numberOfText`), and the longest number at the start of a
text (`leadingDecimal`, `leadingWhole`). All of them round correctly, except that `leadingWhole` adds digit
by digit in floating point.
-/

namespace ScriptCoverage

/-- A number that is none. -/
def notANumber : Float := 0.0 / 0.0

def infinity : Float := 1.0 / 0.0

namespace Reading

/-! ### Parts of a number -/

/-- A sign in front of a text: whether it is a minus, and the rest. -/
def sign : List Char → Bool × List Char
  | '-' :: cs => (true, cs)
  | '+' :: cs => (false, cs)
  | cs => (false, cs)

/-- The digits at the start of a text, and the rest. -/
def digits (cs : List Char) : List Char × List Char := (cs.takeWhile Char.isDigit, cs.dropWhile Char.isDigit)

def digitsValue (cs : List Char) : Nat := cs.foldl (fun n c => 10 * n + (c.toNat - '0'.toNat)) 0

/-- Whole digits, fraction digits and an exponent, without a sign. -/
structure Unsigned where
  whole : List Char
  fraction : List Char
  exponent : Int

def Unsigned.toFloat (u : Unsigned) (negative : Bool) : Float :=
  Decimal.toFloat negative ⟨digitsValue (u.whole ++ u.fraction), u.exponent - u.fraction.length⟩

/-- The exponent at the start of a text, if a whole one stands there, and the rest. -/
def exponent? : List Char → Option (Int × List Char)
  | e :: cs =>
    if e == 'e' || e == 'E' then
      let (negative, cs) := sign cs
      let (ds, rest) := digits cs
      if ds.isEmpty then none
      else some (if negative then -(digitsValue ds : Int) else digitsValue ds, rest)
    else none
  | [] => none

/-- The longest number without a sign at the start of a text, and the rest. -/
def unsigned? (cs : List Char) : Option (Unsigned × List Char) :=
  let (whole, rest) := digits cs
  let (fraction, rest) := match rest with
    | '.' :: cs => if whole.isEmpty && (digits cs).1.isEmpty then ([], rest) else digits cs
    | _ => ([], rest)
  if whole.isEmpty && fraction.isEmpty then none
  else match exponent? rest with
    | some (e, rest) => some (⟨whole, fraction, e⟩, rest)
    | none => some (⟨whole, fraction, 0⟩, rest)

end Reading

open Reading

/-! ### Whole texts -/

/-- The number that a text spells in decimal digits with an optional sign, point and exponent. -/
def decimal? (cs : List Char) : Option Float :=
  let (negative, rest) := sign cs
  match unsigned? rest with
  | some (u, []) => some (u.toFloat negative)
  | _ => none

/-- The value of a digit in a base of at most 36. -/
def digitIn? (base : Nat) (c : Char) : Option Nat :=
  let n :=
    if c.isDigit then c.toNat - '0'.toNat
    else if 'a' ≤ c && c ≤ 'z' then c.toNat - 'a'.toNat + 10
    else if 'A' ≤ c && c ≤ 'Z' then c.toNat - 'A'.toNat + 10
    else base
  if n < base then some n else none

/-- The number of at most 64 bits that a text spells in hexadecimal digits, with an optional plus. -/
def hexadecimal? (cs : List Char) : Option Float :=
  let ds := match cs with
    | '+' :: rest => rest
    | _ => cs
  if ds.isEmpty then none
  else (ds.mapM (digitIn? 16)).bind fun ns =>
    let n : Nat := ns.foldl (fun n d => 16 * n + d) 0
    if n < Nat.pow 2 64 then some (ofWhole n) else none

/-- The number that a text stands for: blanks around it do not count, nothing at all is zero, and what is
no number is not one. -/
def numberOfText (s : String) : Float :=
  match Text.trim s.toList with
  | [] => 0
  | '0' :: 'x' :: ds | '0' :: 'X' :: ds => (hexadecimal? ds).getD notANumber
  | cs =>
    if cs == "Infinity".toList || cs == "+Infinity".toList then infinity
    else if cs == "-Infinity".toList then -infinity
    else (decimal? cs).getD notANumber

/-! ### Starts of texts -/

/-- The number that the longest possible start of a text spells. -/
def leadingDecimal (s : String) : Float :=
  let (negative, rest) := sign (Text.trimLeft s.toList)
  if "Infinity".toList.isPrefixOf rest then if negative then -infinity else infinity
  else match unsigned? rest with
    | some (u, _) => u.toFloat negative
    | none => notANumber

/-- The whole number that the longest start of a text spells in a base. Base zero means sixteen behind `0x`
and ten elsewhere. -/
def leadingWhole (s : String) (base : Int) : Float :=
  let (negative, rest) := sign (Text.trimLeft s.toList)
  let unprefixed? := match rest with
    | '0' :: 'x' :: ds | '0' :: 'X' :: ds => if base = 0 || base = 16 then some ds else none
    | _ => none
  let base := if base = 0 then if unprefixed?.isSome then 16 else 10 else base
  if base < 2 || 36 < base then notANumber
  else
    let base := base.toNat
    let ds := ((unprefixed?.getD rest).map (digitIn? base)).takeWhile Option.isSome
    if ds.isEmpty then notANumber
    else
      let value := ds.foldl (fun x d => x * ofWhole base + ofWhole (d.getD 0)) 0.0
      if negative then -value else value

end ScriptCoverage
