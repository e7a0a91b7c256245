import ScriptCoverage.Pattern.Syntax
import ScriptCoverage.Text.Hex
import ScriptCoverage.Unicode.Class

/-!
Reading patterns. `Syntax.parse` reads a whole pattern or reports the first rule of the syntax that it
breaks. Where the flag `x` is on, blanks and comments do not count.
-/

namespace ScriptCoverage.Pattern

/-! ### The reader -/

/-- Where the reader stands, and what it knows: the number of the next group, the names of groups with their
places, and whether blanks do not count. -/
structure Reader where
  rest : List Char
  pos : Nat := 0
  nextGroup : Nat := 1
  names : List (List Char × Mark) := []
  spaced : Bool := false

abbrev Parser := StateT Reader (Except Failure)

namespace Parser

def failAt {α : Type} (fault : Fault) (start stop : Nat) (earlier : Option Mark := none) : Parser α :=
  throw ⟨fault, ⟨start, stop⟩, earlier⟩

def pos : Parser Nat := return (← get).pos

/-- The next character. -/
def char? : Parser (Option Char) := return (← get).rest.head?

/-- The character behind the next one. -/
def second? : Parser (Option Char) := return ((← get).rest.drop 1).head?

def skip (n : Nat) : Parser Unit := modify fun r => { r with rest := r.rest.drop n, pos := r.pos + min n r.rest.length }

/-- Number of characters of blanks and comments at the start of a text; a comment runs to the line end. -/
def spacing : Bool → List Char → Nat
  | _, [] => 0
  | true, c :: cs => spacing (c != '\n') cs + 1
  | false, c :: cs => if Unicode.isBlank c then spacing false cs + 1 else if c == '#' then spacing true cs + 1 else 0

/-- Skips blanks and comments where they do not count. -/
def skipSpace : Parser Unit := do
  if (← get).spaced then skip (spacing false (← get).rest)

/-- Goes to the next character that counts and says whether there is one. -/
def advance : Parser Bool := do
  skip 1
  skipSpace
  return (← char?).isSome

/-- Skips a text if it comes next. -/
def eat (s : String) : Parser Bool := do
  if s.toList.isPrefixOf (← get).rest then
    skip s.length
    return true
  else return false

/-- Fails at the next character. -/
def failHere {α : Type} (fault : Fault) : Parser α := do failAt fault (← pos) ((← pos) + 1)

/-- Reads the characters that count as long as they have a property; the last one comes first. -/
def takeWhile (p : Char → Bool) : Nat → List Char → Parser (List Char)
  | 0, cs => return cs
  | n + 1, cs => do
    match ← char? with
    | some c =>
      if p c then
        let _ ← advance
        takeWhile p n (c :: cs)
      else return cs
    | none => return cs

/-- The characters that count from here on which have a property. -/
def charsWhile (p : Char → Bool) : Parser (List Char) := do
  return (← takeWhile p (← get).rest.length []).reverse

/-! ### Escapes -/

/-- The smallest parts of patterns, which stand inside and outside of brackets. -/
inductive Primitive
  | literal (l : Literal)
  | dot (mark : Mark)
  | position (mark : Mark) (p : Position)
  | property (mark : Mark) (negated : Bool) (query : PropertyQuery)
  | shorthand (mark : Mark) (negated : Bool) (kind : Shorthand)

def Primitive.mark : Primitive → Mark
  | literal l => l.mark
  | dot m | position m _ | property m .. | shorthand m .. => m

/-- The character with a code, if there is one. -/
def charOf? (n : Nat) : Option Char := if n.isValidChar then some (Char.ofNat n) else none

/-- Reads a fixed number of hexadecimal digits, of which `value` are known. -/
def hexDigits (start : Nat) (value : Nat) : Nat → Parser Char
  | 0 => do
    match charOf? value with
    | some c => return c
    | none => failAt .hexInvalid start (← pos)
  | n + 1 => do
    match ← char? with
    | none => failAt .escapeAtEnd (← pos) (← pos)
    | some c =>
      match Text.hexDigit? c with
      | none => failHere .hexInvalidDigit
      | some d =>
        let _ ← advance
        hexDigits start (value * 16 + d) n

/-- Reads hexadecimal digits up to a brace, at most `bound` of them. -/
def hexBraced (brace start value count : Nat) : Nat → Parser Char
  | 0 => failHere .hexInvalidDigit
  | bound + 1 => do
    match ← char? with
    | none => failAt .escapeAtEnd brace (← pos)
    | some '\x7d' =>
      let stop ← pos
      let _ ← advance
      if count = 0 then failAt .hexEmpty brace (← pos)
      match charOf? value with
      | some c => return c
      | none => failAt .hexInvalid start stop
    | some c =>
      match Text.hexDigit? c with
      | none => failHere .hexInvalidDigit
      | some d =>
        let _ ← advance
        hexBraced brace start (value * 16 + d) (count + 1) bound

/-- Reads a code behind `\x`, `\u` or `\U`, given where the escape starts. -/
def hexEscape (start digits : Nat) : Parser Primitive := do
  if !(← advance) then failAt .escapeAtEnd (← pos) (← pos)
  let first ← pos
  if (← char?) == some '\x7b' then
    let _ ← advance
    let c ← hexBraced first (first + 1) 0 0 ((← get).rest.length + 1)
    return .literal ⟨⟨start, ← pos⟩, c, false⟩
  else
    let c ← hexDigits first 0 digits
    return .literal ⟨⟨start, ← pos⟩, c, digits == 2⟩

/-- The position of a text in another one. -/
def indexOf? (s : List Char) : List Char → Option Nat
  | [] => none
  | c :: cs => if s.isPrefixOf (c :: cs) then some 0 else (indexOf? s cs).map (· + 1)

/-- What the text between braces asks for. -/
def queryOf (name : List Char) : PropertyQuery :=
  match indexOf? "!=".toList name, indexOf? [':'] name, indexOf? ['='] name with
  | some i, _, _ => .valued (name.take i) (name.drop (i + 2)) false
  | none, some i, _ | none, none, some i => .valued (name.take i) (name.drop (i + 1)) true
  | none, none, none => .named name

/-- Reads the name of a property behind `\p`, given where the escape starts. -/
def propertyEscape (start : Nat) (negated : Bool) : Parser Primitive := do
  if !(← advance) then failAt .escapeAtEnd (← pos) (← pos)
  let atEnd {α : Type} : Parser α := do failAt .escapeAtEnd (← pos) (← pos)
  match ← char? with
  | none => atEnd
  | some '\x7b' =>
    let _ ← advance
    let name ← charsWhile (· != '\x7d')
    if (← char?).isNone then atEnd
    skip 1
    return .property ⟨start, ← pos⟩ negated (queryOf name)
  | some '\\' => failHere .propertyInvalid
  | some c =>
    let _ ← advance
    return .property ⟨start, ← pos⟩ negated (.named [c])

def isPunctuation (c : Char) : Bool :=
  c.toNat < 128 && !c.isAlphanum && c != '<' && c != '>'

/-- Reads the kind of a word boundary in braces, if there is one. -/
def boundaryKind (start : Nat) : Parser WordLook := do
  let isLetter (c : Char) : Bool := c.isAlpha || c == '-'
  if (← char?) != some '\x7b' then return .boundary
  let brace ← pos
  let before ← get
  if !(← advance) then failAt .wordBoundaryAtEnd start (← pos)
  if !(← char?).any isLetter then
    -- braces without a word are counts
    set before
    return .boundary
  let first ← pos
  let name ← charsWhile isLetter
  if (← char?) != some '\x7d' then failAt .wordBoundaryUnclosed brace (← pos)
  let stop ← pos
  skip 1
  match String.ofList name with
  | "start" => return .start
  | "end" => return .stop
  | "start-half" => return .noneBefore
  | "end-half" => return .noneAfter
  | _ => failAt .wordBoundaryUnknown first stop

/-- Reads an escape. -/
def escape : Parser Primitive := do
  let start ← pos
  skip 1
  match ← char? with
  | none => failAt .escapeAtEnd start (← pos)
  | some c =>
    let mark : Mark := ⟨start, (← pos) + 1⟩
    let set (negated : Bool) (kind : Shorthand) : Parser Primitive := do
      skip 1
      return .shorthand mark negated kind
    let char (c : Char) : Parser Primitive := do
      skip 1
      return .literal ⟨mark, c, false⟩
    let look (p : Position) : Parser Primitive := do
      skip 1
      return .position mark p
    if c.isDigit then failAt .backreference mark.start mark.stop
    match c with
    | 'x' => hexEscape start 2
    | 'u' => hexEscape start 4
    | 'U' => hexEscape start 8
    | 'p' => propertyEscape start false
    | 'P' => propertyEscape start true
    | 'd' => set false .digit
    | 'D' => set true .digit
    | 's' => set false .space
    | 'S' => set true .space
    | 'w' => set false .word
    | 'W' => set true .word
    | 'a' => char '\x07'
    | 'f' => char '\x0c'
    | 't' => char '\t'
    | 'n' => char '\n'
    | 'r' => char '\r'
    | 'v' => char '\x0b'
    | 'A' => look .textStart
    | 'z' => look .textEnd
    | 'B' => look (.word .inside)
    | '<' => look (.word .start)
    | '>' => look (.word .stop)
    | 'b' =>
      skip 1
      let kind ← boundaryKind start
      return .position ⟨start, ← pos⟩ (.word kind)
    | c => if isPunctuation c then char c else failAt .escapeUnknown mark.start mark.stop

/-! ### Sets in brackets -/

/-- The ranges of a class of ASCII characters. -/
def asciiClass? (name : String) : Option (List (Char × Char)) :=
  match name with
  | "alnum" => some [('0', '9'), ('A', 'Z'), ('a', 'z')]
  | "alpha" => some [('A', 'Z'), ('a', 'z')]
  | "ascii" => some [('\x00', '\x7f')]
  | "blank" => some [('\t', '\t'), (' ', ' ')]
  | "cntrl" => some [('\x00', '\x1f'), ('\x7f', '\x7f')]
  | "digit" => some [('0', '9')]
  | "graph" => some [('!', '~')]
  | "lower" => some [('a', 'z')]
  | "print" => some [(' ', '~')]
  | "punct" => some [('!', '/'), (':', '@'), ('[', '\x60'), ('\x7b', '~')]
  | "space" => some [('\t', '\r'), (' ', ' ')]
  | "upper" => some [('A', 'Z')]
  | "word" => some [('0', '9'), ('A', 'Z'), ('_', '_'), ('a', 'z')]
  | "xdigit" => some [('0', '9'), ('A', 'F'), ('a', 'f')]
  | _ => none

/-- A class of ASCII characters such as `[:alpha:]` at the start of a text: whether it is negated, its ranges
and its length. -/
def asciiClassAt? (cs : List Char) : Option (Bool × List (Char × Char) × Nat) :=
  match cs with
  | '[' :: ':' :: rest =>
    let (negated, rest, len) := match rest with
      | '^' :: r => (true, r, 3)
      | r => (false, r, 2)
    let name := rest.takeWhile (· != ':')
    match rest.drop name.length with
    | ':' :: ']' :: _ =>
      (asciiClass? (String.ofList name)).map fun rs => (negated, rs, len + name.length + 2)
    | _ => none
  | _ => none

/-- Reads one member of a set. -/
def setPrimitive : Parser Primitive := do
  let start ← pos
  match ← char? with
  | some '\\' => escape
  | some c =>
    skip 1
    return .literal ⟨⟨start, start + 1⟩, c, false⟩
  | none => return .dot ⟨start, start⟩

/-- The characters that a member of a set stands for. -/
def Primitive.toSet : Primitive → Parser SetSyntax
  | .literal l => return .literal l
  | .property m negated q => return .property m negated q
  | .shorthand m negated k => return .shorthand m negated k
  | .dot m | .position m _ => failAt .classEscapeInvalid m.start m.stop

/-- The end of a range. -/
def Primitive.toLiteral : Primitive → Parser Literal
  | .literal l => return l
  | p => failAt .classRangeLiteral p.mark.start p.mark.stop

/-- The first character that is neither blank nor a number sign; a second number sign counts. -/
def beyondBlanks : Bool → List Char → Option Char
  | _, [] => none
  | signed, c :: cs =>
    if Unicode.isBlank c then beyondBlanks signed cs
    else if c == '#' && !signed then beyondBlanks true cs
    else some c

/-- The next character but one. Where blanks do not count it lies beyond them, unless nothing does. -/
def afterNext : Parser (Option Char) := do
  let rest := (← get).rest.drop 1
  return if (← get).spaced then (beyondBlanks false rest).or rest.head? else rest.head?

/-- Reads a member of a set or a range; `opening` is where the set starts. -/
def setRange (opening : Mark) : Parser SetSyntax := do
  let first ← setPrimitive
  skipSpace
  if (← char?).isNone then failAt .classUnclosed opening.start opening.stop
  let following ← afterNext
  if (← char?) != some '-' || following == some ']' || following == some '-' then first.toSet
  else
    if !(← advance) then failAt .classUnclosed opening.start opening.stop
    let second ← setPrimitive
    let mark : Mark := ⟨first.mark.start, second.mark.stop⟩
    let lo ← first.toLiteral
    let hi ← second.toLiteral
    if hi.char < lo.char then failAt .classRangeInvalid mark.start mark.stop
    return .range mark lo hi

/-- A set that is being read: where it starts, whether it is negated, what stands in front of the last
operator, where the members behind it start, and these, the last one first. -/
structure OpenSet where
  mark : Mark
  negated : Bool
  left : Option (SetOp × SetSyntax) := none
  here : Nat
  items : List SetSyntax := []

namespace OpenSet

def add (s : OpenSet) (item : SetSyntax) : OpenSet := { s with items := item :: s.items }

/-- Everything read so far as one set. -/
def joined (s : OpenSet) : SetSyntax :=
  let right := SetSyntax.ofItems s.here s.items.reverse
  match s.left with
  | none => right
  | some (op, left) => .combined ⟨left.mark.start, right.mark.stop⟩ op left right

/-- Goes on behind an operator that ends at `here`. -/
def after (s : OpenSet) (op : SetOp) (here : Nat) : OpenSet :=
  { s with left := some (op, s.joined), here, items := [] }

end OpenSet

/-- Reads hyphens at the start of a set, which stand for themselves. -/
def leadingHyphens (start : Nat) : Nat → List SetSyntax → Parser (List SetSyntax)
  | 0, s => return s
  | n + 1, s => do
    if (← char?) == some '-' then
      let here ← pos
      if !(← advance) then failAt .classUnclosed start start
      leadingHyphens start n (.literal ⟨⟨here, here + 1⟩, '-', false⟩ :: s)
    else return s

/-- Reads the bracket that opens a set, and the members that stand for themselves only here. -/
def setOpening : Parser OpenSet := do
  let start ← pos
  let unclosed {α : Type} : Parser α := do failAt .classUnclosed start (← pos)
  if !(← advance) then unclosed
  let negated := (← char?) == some '^'
  if negated then
    if !(← advance) then unclosed
  let here ← pos
  let hyphens ← leadingHyphens start (← get).rest.length []
  if hyphens.isEmpty && (← char?) == some ']' then
    if !(← advance) then unclosed
    return { mark := ⟨start, ← pos⟩, negated, here, items := [.literal ⟨⟨here, here + 1⟩, ']', false⟩] }
  return { mark := ⟨start, ← pos⟩, negated, here, items := hyphens }

/-- The operator between sets that comes next. -/
def setOp? : Parser (Option SetOp) := do
  match ← char?, ← second? with
  | some '&', some '&' => return some .intersection
  | some '-', some '-' => return some .difference
  | some '~', some '~' => return some .symmetricDifference
  | _, _ => return none

/-- A set in brackets with its marks. -/
structure Bracket where
  mark : Mark
  negated : Bool
  body : SetSyntax
  deriving Inhabited

/-- Reads a set from its bracket on, or goes on reading an open one. -/
def setFrom : Nat → Option OpenSet → Parser Bracket
  | 0, _ => return default
  | n + 1, none => do setFrom n (some (← setOpening))
  | n + 1, some s => do
    skipSpace
    let start ← pos
    match ← char? with
    | none => failAt .classUnclosed s.mark.start s.mark.stop
    | some '[' =>
      match asciiClassAt? (← get).rest with
      | some (negated, ranges, len) =>
        skip len
        setFrom n (some (s.add (.ascii ⟨start, start + len⟩ negated ranges)))
      | none =>
        let inner ← setFrom n none
        setFrom n (some (s.add (.bracket inner.mark inner.negated inner.body)))
    | some ']' =>
      skip 1
      return ⟨⟨s.mark.start, ← pos⟩, s.negated, s.joined⟩
    | some _ =>
      match ← setOp? with
      | some op =>
        skip 2
        setFrom n (some (s.after op (← pos)))
      | none => setFrom n (some (s.add (← setRange s.mark)))

/-! ### Repetitions -/

/-- Reads a whole number with blanks around it; without digits there is none. -/
def decimal : Parser (Except Failure Nat) := do
  skip ((← get).rest.takeWhile Unicode.isBlank).length
  let start ← pos
  let digits ← charsWhile Char.isDigit
  let stop ← pos
  let _ ← charsWhile Unicode.isBlank
  if digits.isEmpty then return .error ⟨.countMissing, ⟨start, stop⟩, none⟩
  let value := digits.foldl (fun n c => 10 * n + (c.toNat - '0'.toNat)) 0
  return if value < Nat.pow 2 32 then .ok value else .error ⟨.decimalInvalid, ⟨start, stop⟩, none⟩

/-- Reads a question mark behind a repetition, which turns its preference round. -/
def isGreedy : Parser Bool := do
  if (← char?) == some '?' then
    skip 1
    return false
  else return true

/-- Reads counts in braces: the least and the greatest one, and whether more is preferred. -/
def counts : Parser (Nat × Option Nat × Bool) := do
  let start ← pos
  let unclosed {α : Type} : Parser α := do failAt .countUnclosed start (← pos)
  if !(← advance) then unclosed
  let low ← decimal
  let (min, max) ← match ← char? with
    | none => unclosed
    | some ',' =>
      if !(← advance) then unclosed
      if (← char?) == some '\x7d' then pure (← ofExcept low, none)
      else do
        let min ← ofExcept low
        let max ← ofExcept (← decimal)
        pure (min, some max)
    | some _ => do
      let min ← ofExcept low
      pure (min, some min)
  if (← char?) != some '\x7d' then unclosed
  let _ ← advance
  let greedy ← isGreedy
  if max.any (· < min) then failAt .countInvalid start (← pos)
  return (min, max, greedy)
where
  ofExcept {α : Type} : Except Failure α → Parser α
    | .ok a => return a
    | .error f => throw f

/-! ### Groups and flags -/

def flagOf? : Char → Option Flag
  | 'i' => some .anyCase
  | 'm' => some .multiLine
  | 's' => some .dotAll
  | 'U' => some .lazyFirst
  | 'u' => some .unicode
  | 'R' => some .crlf
  | 'x' => some .spaced
  | _ => none

/-- What a flag list has shown so far. -/
structure FlagList where
  letters : List (Flag × Bool × Mark) := []
  hyphen : Option Mark := none
  dangling : Bool := false
  any : Bool := false

/-- Reads flags up to a colon or a parenthesis. -/
def flagList : Nat → FlagList → Parser FlagList
  | 0, l => return l
  | n + 1, l => do
    let here : Mark := ⟨← pos, (← pos) + 1⟩
    match ← char? with
    | none => failAt .flagAtEnd here.start here.start
    | some ':' | some ')' =>
      match l.dangling, l.hyphen with
      | true, some m => failAt .flagDanglingNegation m.start m.stop
      | _, _ => return l
    | some '-' =>
      if l.hyphen.isSome then failAt .flagRepeatedNegation here.start here.stop l.hyphen
      skip 1
      flagList n { l with hyphen := some here, dangling := true, any := true }
    | some c =>
      match flagOf? c with
      | none => failHere .flagUnknown
      | some f =>
        match l.letters.find? fun e => e.1 == f with
        | some (_, _, m) => failAt .flagDuplicate here.start here.stop (some m)
        | none =>
          skip 1
          flagList n { l with letters := (f, l.hyphen.isNone, here) :: l.letters, dangling := false, any := true }

def FlagList.changes (l : FlagList) : FlagChanges := l.letters.map fun e => (e.1, e.2.1)

/-- Takes over what a flag list says about blanks. -/
def applySpaced (changes : FlagChanges) : Parser Unit :=
  modify fun r => { r with spaced := (changes.lookup .spaced).getD r.spaced }

def isNameChar (first : Bool) (c : Char) : Bool :=
  c == '_' || Unicode.isAlphabetic c || (!first && (c == '.' || c == '[' || c == ']' || Unicode.isNumeric c))

/-- Reads the name of a group up to `>`. -/
def groupName : Parser Unit := do
  let start ← pos
  let inside := (← get).rest
  let name := inside.takeWhile (· != '>')
  match name.zipIdx.find? fun (c, i) => !isNameChar (i == 0) c with
  | some (_, i) => failAt .captureNameInvalid (start + i) (start + i + 1)
  | none =>
    let stop := start + name.length
    if name.length = inside.length then failAt .captureNameUnclosed stop stop
    skip (name.length + 1)
    if name.isEmpty then failAt .captureNameEmpty start start
    match (← get).names.find? fun e => e.1 == name with
    | some (_, m) => failAt .captureNameDuplicate start stop (some m)
    | none => modify fun r => { r with names := (name, ⟨start, stop⟩) :: r.names }

/-- What stands behind an opening parenthesis. -/
inductive Opening
  | group (kind : GroupKind)
  | flags (changes : FlagChanges)

/-- Reads an opening parenthesis and what belongs to it. -/
def groupOpening : Parser Opening := do
  let start ← pos
  skip 1
  skipSpace
  if (← eat "?=") || (← eat "?!") || (← eat "?<=") || (← eat "?<!") then failAt .lookAround start (← pos)
  let inner ← pos
  let nextIndex : Parser Nat := modifyGet fun r => (r.nextGroup, { r with nextGroup := r.nextGroup + 1 })
  if (← eat "?P<") || (← eat "?<") then
    let index ← nextIndex
    groupName
    return .group (.capturing index)
  else if ← eat "?" then
    if (← char?).isNone then failAt .groupUnclosed start (start + 1)
    let l ← flagList ((← get).rest.length + 1) {}
    let closes := (← char?) == some ')'
    skip 1
    if closes && !l.any then failAt .operandMissing inner inner
    return if closes then .flags l.changes else .group (.plain l.changes)
  else return .group (.capturing (← nextIndex))

/-! ### Sequences and choices -/

/-- The parts of a sequence read so far with the places where they start, the last one first. -/
abbrev Parts := List (Nat × Syntax)

def Parts.joined (start stop : Nat) (ps : Parts) : Syntax := .ofParts ⟨start, stop⟩ (ps.reverse.map Prod.snd)

def Primitive.toSyntax : Primitive → Syntax
  | .literal l => .literal l
  | .dot m => .dot m
  | .position _ p => .position p
  | .property m negated q => .property m negated q
  | .shorthand m negated k => .shorthand m negated k

/-- The parts with the last one repeated, read from the operator on. -/
def Parts.repeated (ps : Parts) (counts : Parser (Nat × Option Nat × Bool)) : Parser Parts := do
  match ps with
  | (start, p) :: ps =>
    if !p.isRepeatable then failAt .operandMissing (← pos) (← pos)
    let (min, max, greedy) ← counts
    return (start, .repetition ⟨start, ← pos⟩ min max greedy p) :: ps
  | [] => failAt .operandMissing (← pos) (← pos)

/-- Reads an operator of one character with fixed counts. -/
def fixedCounts (min : Nat) (max : Option Nat) : Parser (Nat × Option Nat × Bool) := do
  skip 1
  return (min, max, ← isGreedy)

mutual

/-- Reads choices up to a closing parenthesis or the end; `start` is where the first one starts, and
`before` holds those read so far, the last one first. The first argument bounds the number of steps. -/
def choices : Nat → (start : Nat) → List Syntax → Parser Syntax
  | 0, _, _ => return .empty
  | n + 1, start, before => do
    let choice ← sequence n (← pos) []
    if (← char?) == some '|' then
      skip 1
      choices n start (choice :: before)
    else if before.isEmpty then return choice
    else return .choice ⟨start, ← pos⟩ (choice :: before).reverse

/-- Reads the rest of a sequence that starts at `start`. -/
def sequence : Nat → (start : Nat) → Parts → Parser Syntax
  | 0, _, _ => return .empty
  | n + 1, start, ps => do
    skipSpace
    let here ← pos
    match ← char? with
    | none | some ')' | some '|' => return ps.joined start here
    | some '(' => group n start ps
    | some '[' => do
      let s ← setFrom (2 * (← get).rest.length + 2) none
      sequence n start ((here, .bracket s.mark s.negated s.body) :: ps)
    | some '?' => do sequence n start (← ps.repeated (fixedCounts 0 (some 1)))
    | some '*' => do sequence n start (← ps.repeated (fixedCounts 0 none))
    | some '+' => do sequence n start (← ps.repeated (fixedCounts 1 none))
    | some '\x7b' => do sequence n start (← ps.repeated counts)
    | some '\\' => do sequence n start ((here, (← escape).toSyntax) :: ps)
    | some c => do
      skip 1
      let p : Syntax := match c with
        | '.' => .dot ⟨here, here + 1⟩
        | '^' => .position .lineStart
        | '$' => .position .lineEnd
        | c => .literal ⟨⟨here, here + 1⟩, c, false⟩
      sequence n start ((here, p) :: ps)

/-- Reads a group, or flags for the rest of the group around them, and goes on with the sequence. -/
def group : Nat → (start : Nat) → Parts → Parser Syntax
  | 0, _, _ => return .empty
  | n + 1, start, ps => do
    let here ← pos
    match ← groupOpening with
    | .flags changes =>
      applySpaced changes
      sequence n start ((here, .flags changes) :: ps)
    | .group kind =>
      let outside := (← get).spaced
      if let .plain changes := kind then applySpaced changes
      let inside ← choices n (← pos) []
      if (← char?).isNone then failAt .groupUnclosed here (here + 1)
      skip 1
      modify fun r => { r with spaced := outside }
      sequence n start ((here, .group ⟨here, ← pos⟩ kind inside) :: ps)

end

/-- Reads a whole pattern. -/
def whole : Parser Syntax := do
  let s ← choices (3 * (← get).rest.length + 3) 0 []
  if (← char?).isSome then failHere .groupUnopened
  match s.tooDeep? 0 with
  | some m => failAt .nestLimit m.start m.stop
  | none => return s

end Parser

/-- The pattern that a text spells. -/
def Syntax.parse (pattern : String) : Except Failure Syntax :=
  (Parser.whole.run { rest := pattern.toList }).map Prod.fst

end ScriptCoverage.Pattern
