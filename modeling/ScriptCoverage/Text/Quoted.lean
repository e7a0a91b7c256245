import ScriptCoverage.Text.Hex
import ScriptCoverage.Unicode.Class

/-!
Quoted texts. `literal` spells a text as a string literal of a script; `shown` spells it for messages
and debug output, where everything that cannot be seen is an escape.
-/

namespace ScriptCoverage.Text

/-! ### String literals -/

/-- The quote around a literal: the double one, unless the text holds more of those than single ones. -/
def literalQuote (cs : List Char) : Char := if cs.count '\'' < cs.count '"' then '\'' else '"'

/-- The spelling of a character in a literal, given the quote and the character that follows. -/
def literalChar (quote : Char) (next : Option Char) (c : Char) : List Char :=
  if c == quote then ['\\', c]
  else match c with
    | '\\' => ['\\', '\\']
    | '\n' => ['\\', 'n']
    | '\r' => ['\\', 'r']
    | '\t' => ['\t']
    | '\x08' => ['\\', 'b']
    | '\x0b' => ['\\', 'v']
    | '\x0c' => ['\\', 'f']
    | '\x00' => if next.any Char.isDigit then ['\\', 'x', '0', '0'] else ['\\', '0']
    | '\u2028' | '\u2029' => '\\' :: 'u' :: hex 4 c.toNat
    | '\ufeff' => ['\\', 'u', 'F', 'E', 'F', 'F']
    | c => if c.toNat < 32 then '\\' :: 'x' :: hex 2 c.toNat else [c]

/-- Whether three hexadecimal digits behind a `d` make the code of half of a pair. -/
def isHalfCode (a b c : Char) : Bool := (hexDigit? a).any (8 ≤ ·) && (hexDigit? b).isSome && (hexDigit? c).isSome

/-- The escape for half of a pair at the start of a text, and its length. With braces a digit must follow the
opening one, but what stands in the place of the closing one does not matter. -/
def halfEscape? : List Char → Option (List Char × Nat)
  | '\\' :: 'u' :: '\x7b' :: d :: a :: b :: c :: _ =>
    if d.toLower == 'd' && isHalfCode a b c then some (['\\', 'u', '\x7b', d, a, b, c, '\x7d'], 8) else none
  | '\\' :: 'u' :: d :: a :: b :: c :: _ =>
    if d.toLower == 'd' && isHalfCode a b c then some (['\\', 'u', d, a, b, c], 6) else none
  | _ => none

/-- The spelling of a text behind its first `skipped` characters. An escape for half of a pair, which no
character can stand for, is kept. -/
def literalBody (quote : Char) : (skipped : Nat) → List Char → List Char
  | _, [] => []
  | n + 1, _ :: cs => literalBody quote n cs
  | 0, c :: cs =>
    match halfEscape? (c :: cs) with
    | some (text, len) => text ++ literalBody quote (len - 1) cs
    | none => literalChar quote cs.head? c ++ literalBody quote 0 cs

/-- A text as a string literal. -/
def literal (s : String) : String :=
  let quote := literalQuote s.toList
  String.ofList (quote :: literalBody quote 0 s.toList ++ [quote])

/-! ### Shown texts -/

/-- The spelling of a character in a shown text. -/
def shownChar (c : Char) : List Char :=
  match c with
  | '\t' => ['\\', 't']
  | '\r' => ['\\', 'r']
  | '\n' => ['\\', 'n']
  | '"' => ['\\', '"']
  | '\\' => ['\\', '\\']
  | '\x00' => ['\\', '0']
  | c => if Unicode.isUnprintable c then '\\' :: 'u' :: '\x7b' :: hex 1 c.toNat ++ ['\x7d'] else [c]

/-- A text in double quotes with every character visible. -/
def shown (s : String) : String := String.ofList ('"' :: s.toList.flatMap shownChar ++ ['"'])

end ScriptCoverage.Text
