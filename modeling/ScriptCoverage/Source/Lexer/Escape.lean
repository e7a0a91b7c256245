import ScriptCoverage.Source.Lexer.Basic
import ScriptCoverage.Text.Hex

/-!
Digits and escapes. A run of digits may have separators in it, also in an escape. An escape stands for
one character, for none if it only continues a line, and for its own text if it names half of a pair.
-/

namespace ScriptCoverage.Source

/-! ### Digits -/

def isDigitOf (radix : Nat) (c : Char) : Bool := (Text.hexDigit? c).any (· < radix)

def isOctalDigit (c : Char) : Bool := isDigitOf 8 c

/-- A run of digits: the digits alone, the number of characters with separators, and whether a digit
stands behind every separator. -/
structure DigitRun where
  digits : List Char := []
  count : Nat := 0
  fits : Bool := true

/-- The run of at most `limit` digits at the start of a text. -/
def digitRun (radix : Nat) : Nat → List Char → DigitRun
  | 0, _ | _, [] => {}
  | n + 1, c :: cs =>
    if c == '_' then
      let r := digitRun radix (n + 1) cs
      { r with count := r.count + 1, fits := r.fits && cs.head?.any (isDigitOf radix) }
    else if isDigitOf radix c then
      let r := digitRun radix n cs
      { r with digits := c :: r.digits, count := r.count + 1 }
    else {}

def digitsValue (radix : Nat) (cs : List Char) : Nat :=
  cs.foldl (fun n c => n * radix + (Text.hexDigit? c).getD 0) 0

namespace Lexer

/-- Takes a run of at most `limit` digits. -/
def digitsUpTo (radix limit : Nat) : Lexer (List Char) := do
  let c ← cursor
  let run := digitRun radix limit c.rest
  if !run.fits then note c.pos .misplacedSeparator
  skip run.count
  return run.digits

/-- The number of digits and separators at the start of a text. -/
def digitBound (radix : Nat) (cs : List Char) : Nat := (cs.takeWhile fun c => c == '_' || isDigitOf radix c).length

/-- Takes all digits that follow. -/
def digits (radix : Nat) : Lexer (List Char) := do digitsUpTo radix (digitBound radix (← rest))

/-! ### Unicode escapes -/

def isSurrogate (n : Nat) : Bool := 0xd800 ≤ n && n ≤ 0xdfff

/-- The number of leading digits behind which a value takes more than 32 bits. -/
def overflowCount? (ds : List Char) : Option Nat :=
  ((List.range ds.length).map (· + 1)).find? fun k => Nat.pow 2 32 ≤ digitsValue 16 (ds.take k)

/-- The digits of an escape in braces. Too many of them end the escape where they become too many. -/
def bracedDigits : Lexer Nat := do
  let ds := (digitRun 16 (digitBound 16 (← rest)) (← rest)).digits
  match overflowCount? ds with
  | some k =>
    let _ ← digitsUpTo 16 k
    failHere (.escapeDigitsExpected "1-6 hex characters")
  | none =>
    let _ ← digits 16
    if ds.isEmpty then failHere (.escapeDigitsExpected "1-6 hex characters")
    let value := digitsValue 16 ds
    if 0x10ffff < value then failHere (.escapeDigitsExpected "1-6 hex characters in the range 0 to 10FFFF.")
    return value

/-- A Unicode escape, read from its `u` on. -/
def unicodeEscape : Lexer (List Char) := do
  skip 1
  if ← eat '\x7b' then
    let start ← cursor
    let value ← bracedDigits
    -- what names half of a pair is kept as it is written
    let text ← if isSurrogate value then
        moveTo start
        let ds := ((← rest).take 6).takeWhile (· != '\x7d')
        skip ds.length
        pure ("\\u\x7b".toList ++ ds ++ ['\x7d'])
      else pure [Char.ofNat value]
    if ← eat '\x7d' then return text else failAt start.pos .unclosedEscape
  else
    let start ← cursor
    let ds ← digitsUpTo 16 4
    if ds.length < 4 then failHere (.escapeDigitsExpected "4 hex characters")
    let value := digitsValue 16 ds
    if isSurrogate value then
      moveTo start
      let ds := (← rest).take 4
      skip ds.length
      return "\\u".toList ++ ds
    return [Char.ofNat value]

/-! ### Escapes in texts -/

/-- Letters that stand for a control character behind a backslash. -/
def controlChar? : Char → Option Char
  | 'n' => some '\n'
  | 'r' => some '\r'
  | 't' => some '\t'
  | 'b' => some '\x08'
  | 'v' => some '\x0b'
  | 'f' => some '\x0c'
  | _ => none

/-- One more octal digit behind a value, unless the value would exceed a byte. -/
def octalDigit? (value : Nat) : Lexer (Option Nat) := do
  match ← rest with
  | c :: _ =>
    if isOctalDigit c && value * 8 + (c.toNat - 48) ≤ 255 then
      skip 1
      return some (value * 8 + (c.toNat - 48))
    else return none
  | [] => return none

/-- An octal escape of up to three digits, the first of which is `c` and has been taken. A zero that is
no part of a longer one is no octal escape. -/
def octalEscape (inTemplate : Bool) (start : Nat) (c : Char) : Lexer (List Char) := do
  if c == '0' && !(← rest).head?.any isOctalDigit then return ['\x00']
  if inTemplate then failAt start .legacyOctal
  noteIfStrict start .legacyOctal
  let first := c.toNat - 48
  match ← octalDigit? first with
  | none => return [Char.ofNat first]
  | some second =>
    match ← octalDigit? second with
    | none => return [Char.ofNat second]
    | some third => return [Char.ofNat third]

/-- An escape in a string or a template, read from its backslash on. Its faults are reported there. -/
def escape (inTemplate : Bool) : Lexer (List Char) := do
  let start ← pos
  skip 1
  match ← rest with
  | [] => failAt start .danglingEscape
  | 'u' :: _ => reportedAt start unicodeEscape
  | c :: _ =>
    skip 1
    match controlChar? c with
    | some d => return [d]
    | none =>
      -- a line end only continues the line
      if c == '\r' then
        let _ ← eat '\n'
        return []
      else if isLineEnd c then return []
      else if c == 'x' then
        let ds ← digitsUpTo 16 2
        if ds.length < 2 then failAt start (.escapeDigitsExpected "2 hex characters")
        return [Char.ofNat (digitsValue 16 ds)]
      else if isOctalDigit c then octalEscape inTemplate start c
      else return [c]

end Lexer

end ScriptCoverage.Source
