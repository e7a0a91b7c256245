import ScriptCoverage.Source.Lexer.Word
import ScriptCoverage.Number.Decimal

/-!
Number literals: decimal ones with fraction and exponent, those with a radix mark, old octal ones that
start with a zero, and whole numbers of any size that end in `n`.
-/

namespace ScriptCoverage.Source

namespace Lexer

/-- Digits of which there must be one. -/
def someDigits (radix : Nat) : Lexer (List Char) := do
  let start ← pos
  let ds ← digits radix
  if ds.isEmpty then failAt start (.digitExpected radix)
  return ds

/-- Checks that no name starts right behind a number. -/
def closeNumber : Lexer Unit := do
  if (← rest).head?.any isNameStart then failHere .nameAfterNumber

/-- A token with the text from a position on as its spelling. -/
def spelled (start : Cursor) (token : String → Token) : Lexer Token := return token (start.upTo (← cursor))

/-- A number with a radix mark. -/
def radixNumber (radix : Nat) : Lexer Token := do
  let start ← cursor
  skip 2
  let value := digitsValue radix (← someDigits radix)
  if ← eat 'n' then return ← spelled start (.bigint value)
  closeNumber
  spelled start (.number (ofWhole value))

/-- The exponent of a decimal number, or zero. -/
def exponent : Lexer Int := do
  match ← rest with
  | c :: cs =>
    if c != 'e' && c != 'E' then return 0
    skip 1
    if cs.isEmpty then failHere .exponentDigitExpected
    let negative ← eat '-'
    if !negative then let _ ← eat '+'
    let value := digitsValue 10 (← someDigits 10)
    return if negative then -(value : Int) else value
  | [] => return 0

/-- The digits of a fraction, without its point. -/
def fraction : Lexer (List Char) := do
  if ← eat '.' then digits 10 else return []

/-- Fraction and exponent behind the whole digits of a decimal number. -/
def decimalRest (start : Cursor) (whole : List Char) : Lexer Token := do
  let places ← fraction
  let e ← exponent
  closeNumber
  spelled start (.number (Decimal.toFloat false ⟨digitsValue 10 (whole ++ places), e - places.length⟩))

/-- A number that starts with a digit and has no radix mark. If it starts with a needless zero it is
octal, unless it has an eight or a nine; strict scripts refuse it in either case. -/
def decimalNumber : Lexer Token := do
  let start ← cursor
  let whole ← someDigits 10
  if ← eat 'n' then return ← spelled start (.bigint (digitsValue 10 whole))
  if whole.head? == some '0' && 1 < whole.length then
    if whole.all isOctalDigit then
      closeNumber
      noteIfStrict start.pos .legacyOctal
      return ← spelled start (.number (ofWhole (digitsValue 8 whole)))
    noteIfStrict start.pos .legacyDecimal
  decimalRest start whole

/-- A number, which starts with a digit or a point. -/
def number : Lexer Token := do
  match ← rest with
  | '0' :: mark :: _ =>
    if mark == 'x' || mark == 'X' then radixNumber 16
    else if mark == 'o' || mark == 'O' then radixNumber 8
    else if mark == 'b' || mark == 'B' then radixNumber 2
    else decimalNumber
  | '.' :: _ => do decimalRest (← cursor) []
  | _ => decimalNumber

end Lexer

end ScriptCoverage.Source
