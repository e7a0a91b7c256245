import ScriptCoverage.Source.Cursor
import ScriptCoverage.Source.Error
import ScriptCoverage.Source.Spelling
import ScriptCoverage.Number.Decimal

/-!
Tokens of a script. A token that cannot be read is a token too: it carries the fault, which counts only
when a parser comes to it. `Token.shown` is the text by which messages name a token.
-/

namespace ScriptCoverage.Source

inductive Bracket
  | round | square | curly
  deriving DecidableEq, Inhabited, Repr

/-- A token with a fixed spelling; `substitution` opens a substitution in a template. -/
inductive Punct
  | opening (b : Bracket)
  | closing (b : Bracket)
  | substitution
  | backquote
  | semicolon | comma | colon | dot | ellipsis | question | arrow | hash | atSign
  | increment | decrement | bang | tilde
  | operator (op : InfixOp)
  | assign (op : AssignOp)
  deriving DecidableEq, Inhabited, Repr

/-- A token. Words are names and keywords alike; one that starts with an escape is always a name, which
`escaped` records. A chunk is a piece of the text of a template. -/
inductive Token
  | punct (p : Punct)
  | word (text : String) (escaped : Bool)
  | number (value : Float) (raw : String)
  | bigint (value : Nat) (raw : String)
  | string (value : String) (raw : String)
  | chunk (cooked : Except Failure String) (raw : String)
  | invalid (fault : Failure)
  deriving Inhabited

/-- A token, its range, whether a line ends before it, and the text from its start. A comment of markup
counts as part of the token behind it. -/
structure Lexeme where
  token : Token
  span : Span
  newline : Bool
  start : Cursor
  deriving Inhabited

/-! ### Texts in messages -/

def Punct.text : Punct → String
  | .opening .round => "("
  | .closing .round => ")"
  | .opening .square => "["
  | .closing .square => "]"
  | .opening .curly => "\x7b"
  | .closing .curly => "\x7d"
  | .substitution => "$\x7b"
  | .backquote => "\x60"
  | .semicolon => ";"
  | .comma => ","
  | .colon => ":"
  | .dot => "."
  | .ellipsis => "..."
  | .question => "?"
  | .arrow => "=>"
  | .hash => "#"
  | .atSign => "@"
  | .increment => "++"
  | .decrement => "--"
  | .bang => "!"
  | .tilde => "~"
  | .operator op => op.text
  | .assign op => op.text

/-- The name of a fault that a text in braces describes further. -/
def described (name key value : String) : String := name ++ " \x7b " ++ key ++ ": " ++ value ++ " \x7d"

/-- A fault of a token, named for messages that quote the token. -/
def SyntaxFault.shown : SyntaxFault → String
  | .unexpectedChar c => described "UnexpectedChar" "c" (quotedChar c)
  | .digitExpected radix => described "ExpectedDigit" "radix" (toString radix)
  | .exponentDigitExpected => "NumLitTerminatedWithExp"
  | .nameAfterNumber => "IdentAfterNum"
  | .escapeDigitsExpected wanted => described "BadCharacterEscapeSequence" "expected" (Text.shown wanted)
  | .escapeExpected => "ExpectedUnicodeEscape"
  | .unclosedEscape => "InvalidUnicodeEscape"
  | .danglingEscape => "InvalidStrEscape"
  | .escapedKeyword word => described "EscapeInReservedWord" "word" (Text.shown word)
  | .unterminatedTemplate => "UnterminatedTpl"
  | .unterminatedRegex => "UnterminatedRegExp"
  | .conflictMarker => "TS1185"
  | _ => ""

/-- Where the text ends that a fault of a token is about, if the token ends at `stop`. -/
def Failure.stop (f : Failure) (stop : Nat) : Nat :=
  match f.fault with
  | .unexpectedChar _ | .nameAfterNumber | .escapeExpected | .danglingEscape => f.offset
  | .conflictMarker => f.offset + 7
  | _ => stop

/-- A fault of a token that ends at `stop`, with the range that it is about, counted from one. -/
def Failure.shown (f : Failure) (stop : Nat) : String :=
  described "Error" "error"
    ("(" ++ toString (f.offset + 1) ++ ".." ++ toString (f.stop stop + 1) ++ ", " ++ f.fault.shown ++ ")")

/-- The value of a number in a message. -/
def shownNumber (x : Float) : String := if x.isInf then "inf" else literalText x

/-- The kind of a literal with its value and its spelling. -/
def shownLiteral (kind value raw : String) : String := kind ++ " literal (" ++ value ++ ", " ++ raw ++ ")"

def Lexeme.shown (l : Lexeme) : String :=
  match l.token with
  | .punct p => p.text
  | .word w _ => w
  | .number value raw => shownLiteral "numeric" (shownNumber value) raw
  | .bigint value raw => shownLiteral "bigint" (toString value) raw
  | .string value raw => shownLiteral "string" value raw
  | .chunk _ raw => "template token (" ++ raw ++ ")"
  | .invalid f => f.shown l.span.stop

end ScriptCoverage.Source
