import ScriptCoverage.Text.Hex
import ScriptCoverage.Unicode.Class

/-!
Strict reading of JSON. `Json.parse?` accepts exactly the texts of the standard, with any nesting; what a
reader of settings needs of a value is kept, and of numbers only those that are written as whole ones.
-/

namespace ScriptCoverage.Text

/-- A JSON value. A text is `none` if its escapes do not spell characters, and a number is `none` if it has
a sign, a fraction or an exponent. -/
inductive Json
  | null
  | bool (value : Bool)
  | number (digits : Option Nat)
  | text (value : Option String)
  | array (items : List Json)
  | object (entries : List (Option String × Json))

namespace Json

/-! ### Blanks and numbers -/

def isBlank (c : Char) : Bool := c == ' ' || c == '\n' || c == '\t' || c == '\r'

def skipBlanks (cs : List Char) : List Char := cs.dropWhile isBlank

def digitsValue (cs : List Char) : Nat := cs.foldl (fun n c => 10 * n + (c.toNat - '0'.toNat)) 0

/-- The part of a number behind its whole part: whether there is any, and the rest of the text. -/
def numberTail? (cs : List Char) : Option (Bool × List Char) :=
  let fraction? := match cs with
    | '.' :: rest => if rest.head?.any Char.isDigit then some (true, rest.dropWhile Char.isDigit) else none
    | _ => some (false, cs)
  fraction?.bind fun (found, cs) =>
    match cs with
    | e :: rest =>
      if e == 'e' || e == 'E' then
        let rest := match rest with
          | '+' :: r | '-' :: r => r
          | r => r
        if rest.head?.any Char.isDigit then some (true, rest.dropWhile Char.isDigit) else none
      else some (found, cs)
    | [] => some (found, cs)

/-- A number without its sign, and the rest of the text. No zero stands in front of other digits. -/
def number? (negative : Bool) (cs : List Char) : Option (Json × List Char) :=
  let digits := cs.takeWhile Char.isDigit
  if digits.isEmpty || (digits.head? == some '0' && digits.length != 1) then none
  else (numberTail? (cs.drop digits.length)).map fun (more, rest) =>
    (number (if negative || more then none else some (digitsValue digits)), rest)

/-! ### Texts -/

/-- One unit of a text in sixteen bits, or a character. -/
inductive Unit
  | char (c : Char)
  | code (n : Nat)

/-- What stands behind a backslash, and the number of characters it takes. -/
def escape? : List Char → Option (Unit × Nat)
  | '"' :: _ => some (.char '"', 1)
  | '\\' :: _ => some (.char '\\', 1)
  | '/' :: _ => some (.char '/', 1)
  | 'b' :: _ => some (.char '\x08', 1)
  | 'f' :: _ => some (.char '\x0c', 1)
  | 'n' :: _ => some (.char '\n', 1)
  | 'r' :: _ => some (.char '\r', 1)
  | 't' :: _ => some (.char '\t', 1)
  | 'u' :: a :: b :: c :: d :: _ => do
    let n := ((← hexDigit? a) * 16 + (← hexDigit? b)) * 256 + (← hexDigit? c) * 16 + (← hexDigit? d)
    return (.code n, 5)
  | _ => none

/-- The units of a text up to its closing quote, and the rest. -/
def units? : Nat → List Char → Option (List Unit × List Char)
  | 0, _ => none
  | _ + 1, '"' :: cs => some ([], cs)
  | n + 1, '\\' :: cs => do
    let (u, len) ← escape? cs
    let (us, rest) ← units? n (cs.drop len)
    return (u :: us, rest)
  | n + 1, c :: cs =>
    if c.toNat < 32 then none
    else do
      let (us, rest) ← units? n cs
      return (.char c :: us, rest)
  | _ + 1, [] => none

/-- The characters that units spell; a pair of surrogates is one character, and a single one is none. -/
def chars? : List Unit → Option (List Char)
  | [] => some []
  | .char c :: us => (chars? us).map (c :: ·)
  | .code n :: us =>
    if 0xd800 ≤ n && n ≤ 0xdbff then
      match us with
      | .code m :: us =>
        if 0xdc00 ≤ m && m ≤ 0xdfff then
          (chars? us).map (Char.ofNat (0x10000 + (n - 0xd800) * 0x400 + (m - 0xdc00)) :: ·)
        else none
      | _ => none
    else if 0xdc00 ≤ n && n ≤ 0xdfff then none
    else (chars? us).map (Char.ofNat n :: ·)

/-- A text behind its opening quote, and the rest. -/
def text? (cs : List Char) : Option (Option String × List Char) :=
  (units? (cs.length + 1) cs).map fun (us, rest) => ((chars? us).map String.ofList, rest)

/-! ### Values -/

mutual

/-- A value at the start of a text, and the rest. The first argument bounds the number of steps. -/
def value? : Nat → List Char → Option (Json × List Char)
  | 0, _ => none
  | n + 1, cs =>
    match skipBlanks cs with
    | 'n' :: 'u' :: 'l' :: 'l' :: rest => some (null, rest)
    | 't' :: 'r' :: 'u' :: 'e' :: rest => some (bool true, rest)
    | 'f' :: 'a' :: 'l' :: 's' :: 'e' :: rest => some (bool false, rest)
    | '"' :: rest => (text? rest).map fun (s, rest) => (text s, rest)
    | '-' :: rest => number? true rest
    | '[' :: rest =>
      match skipBlanks rest with
      | ']' :: rest => some (array [], rest)
      | rest => (items? n rest).map fun (vs, rest) => (array vs, rest)
    | '\x7b' :: rest =>
      match skipBlanks rest with
      | '\x7d' :: rest => some (object [], rest)
      | rest => (entries? n rest).map fun (es, rest) => (object es, rest)
    | cs => number? false cs

/-- The items of an array up to its bracket. -/
def items? : Nat → List Char → Option (List Json × List Char)
  | 0, _ => none
  | n + 1, cs => do
    let (v, rest) ← value? n cs
    match skipBlanks rest with
    | ',' :: rest => (items? n rest).map fun (vs, rest) => (v :: vs, rest)
    | ']' :: rest => some ([v], rest)
    | _ => none

/-- The entries of an object up to its brace. -/
def entries? : Nat → List Char → Option (List (Option String × Json) × List Char)
  | 0, _ => none
  | n + 1, cs =>
    match skipBlanks cs with
    | '"' :: rest => do
      let (key, rest) ← text? rest
      match skipBlanks rest with
      | ':' :: rest => do
        let (v, rest) ← value? n rest
        match skipBlanks rest with
        | ',' :: rest => (entries? n rest).map fun (es, rest) => ((key, v) :: es, rest)
        | '\x7d' :: rest => some ([(key, v)], rest)
        | _ => none
      | _ => none
    | _ => none

end

/-- The value that a whole text spells. -/
def parse? (s : String) : Option Json := do
  let (v, rest) ← value? (s.length + 1) s.toList
  if (skipBlanks rest).isEmpty then some v else none

end Json

end ScriptCoverage.Text
