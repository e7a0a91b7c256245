import ScriptCoverage.Source.Parser.Operation

/-!
Expressions without operators, accesses and calls. Arrow functions are recognised where an assignment
expression starts: their parameters are read as an expression in parentheses, which becomes a list of
patterns once the arrow is seen.
-/

namespace ScriptCoverage.Source

namespace Parser

variable (g : Grammar)

/-! ### Arguments and elements -/

/-- An argument of a call, an element of an array, or an item between parentheses. -/
def argument : Parser Expr :=
  withIn do
    let start ← pos
    if ← eat .ellipsis then return .spread (← spanFrom start) (← g.assignment) else g.assignment

def isSpread : Expr → Bool
  | .spread .. => true
  | _ => false

/-- The elements of an array literal that starts at an offset, behind those found, which are reversed. -/
def elementsBehind (start : Nat) : Nat → List Expr → Parser (List Expr)
  | 0, _ => fail .tooLong
  | n + 1, found => do
    if (← atEnd) || (← atPunct (.closing .square)) then return found.reverse
    if ← eat .comma then return ← elementsBehind start n (.hole :: found)
    let e ← argument g
    if !(← atPunct (.closing .square)) then
      expect .comma
      -- a comma behind a spread matters only if the array turns out to be a pattern
      if ← atPunct (.closing .square) then rememberComma start (isSpread e) (some (← get).prev.start)
    elementsBehind start n (e :: found)

/-- An array literal, whose bracket is the current token. -/
def array : Parser Expr := do
  let start ← pos
  advance
  let es ← elementsBehind g start g.bound []
  expect (.closing .square)
  return .array (← spanFrom start) es

/-! ### Templates -/

/-- Looks at a chunk of the last template that was started. -/
def lookAtChunk : Parser Unit := fun ctx r =>
  let (l, s) := Lexeme.chunk ctx.toMode r.templateAt r.toScan
  .ok () { r with toScan := s, cur := some l }

/-- Looks at what ends a chunk. -/
def lookAtChunkEnd : Parser Unit := fun _ r =>
  let (l, s) := Lexeme.chunkEnd r.toScan
  .ok () { r with toScan := s, cur := some l }

/-- A chunk of a template. Only a tagged template may have bad escapes. -/
def quasi (tagged : Bool) : Parser Quasi := do
  lookAtChunk
  let l ← require
  advance
  lookAtChunkEnd
  match l.token with
  | .chunk cooked raw =>
    if let (.error f, false) := (cooked, tagged) then throw f
    return ⟨l.span, cooked.toOption, raw⟩
  | _ => unexpected "template token"

/-- The chunks and substitutions of a template, behind those found, which are reversed. -/
def templateParts (tagged : Bool) : Nat → List Quasi → List Expr → Parser (List Quasi × List Expr)
  | 0, _, _ => fail .tooLong
  | n + 1, quasis, es => do
    let quasis := (← quasi tagged) :: quasis
    if ← eat .backquote then return (quasis.reverse, es.reverse)
    expect .substitution
    let e ← withIn (expression g)
    expect (.closing .curly)
    templateParts tagged n quasis (e :: es)

/-- A template, whose opening quote is the current token. -/
def template (tagged : Bool) : Parser (List Quasi × List Expr) := do
  let start ← pos
  advance
  modify fun r => { r with templateAt := start }
  templateParts g tagged g.bound [] []

/-! ### Regular expressions -/

/-- Notes flags that are unknown or doubled. -/
def checkFlags (start : Nat) (flags : String) : Parser Unit := do
  let known := flags.toList.filter "dgimsuvy".toList.contains
  if known.length != flags.toList.length then note start .unknownRegexFlags
  if let some c := known.find? fun c => 1 < known.count c then note start (.duplicateRegexFlag c)

/-- Reads the regular expression that starts with the slash of a lexeme, which has been taken. What follows
that slash counts as the last token. -/
def regexAt (slash : Lexeme) : Parser (String × String) := fun ctx r =>
  match Lexer.regex ctx.toMode { r.toScan with cursor := slash.start } with
  | .ok parts s => .ok parts { r with toScan := s, prev := ⟨slash.span.stop, s.cursor.pos⟩ }
  | .error f s => .error f { r with toScan := s }

/-- A regular expression, whose slash is the current token. -/
def regex : Parser Expr := do
  let slash ← require
  advance
  let start := slash.span.start
  let (pattern, flags) ← regexAt slash
  checkFlags start flags
  return .regex (← spanFrom start) pattern flags

/-! ### Parentheses -/

/-- Whether the first of some expressions is a name. -/
def startsWithName : List Expr → Bool
  | .name _ :: _ => true
  | _ => false

/-- The items between parentheses, behind those found, which are reversed, and the comma behind the last
one if there is one. An arrow on a line of its own makes the items before it the parameters of one more. -/
def parenItems : Nat → List Expr → (comma : Option Nat) → Parser (List Expr × Option Nat)
  | 0, _, _ => fail .tooLong
  | n + 1, found, comma => do
    if (← atEnd) || (← atPunct (.closing .round)) then return (found.reverse, comma)
    let start ← pos
    let found := (← argument g) :: found
    let found ← if ← eat .arrow then
        if startsWithName found.reverse then
          let params ← toParams none found.reverse
          pure ((← arrowFrom g start false params) :: found)
        else pure found
      else pure found
    if ← atPunct (.closing .round) then parenItems n found comma
    else
      expect .comma
      let comma := (← get).prev.start
      parenItems n found (if ← atPunct (.closing .round) then some comma else none)

/-- Notes the entries `a = 1` of object literals. -/
def refuseDefaults : Expr → Parser Unit
  | .object _ es => es.forM fun e =>
    match e with
    | .assigned s .. => note s.start .defaultOutsidePattern
    | _ => return ()
  | _ => return ()

/-- An arrow function with a block for a body cannot be an operand; one that is used so is noted. -/
def arrowOrOperation (e : Expr) : Parser Expr := do
  match e with
  | .function _ =>
    if !(← atSign) then return e
    note (← faultPos) .semicolonExpected
    let e ← operations g g.bound 0 e
    if !(← atStatementEnd) then note (← faultPos) .semicolonExpected
    return e
  | e => return e

/-- What stands between the parentheses of something that is no arrow function. -/
def parenContent (start : Nat) : List Expr → Parser Expr
  | [] => failAt start .emptyParens
  | [.spread _ e] => failAt e.span.start .spreadInParens
  | [e] => return e
  | e :: es => do
    for e in e :: es do
      if let .spread _ e := e then failAt e.span.start .spreadInParens
    return .sequence ⟨e.span.start, (es.getLastD e).span.stop⟩ (e :: es)

/-- An expression in parentheses or an arrow function, which starts at an offset. Behind the word `async`
it is a call of something of that name, or an async arrow function. -/
def parenthesised (start : Nat) (arrowHere : Bool) (async : Option Name) : Parser Expr := do
  expect (.opening .round)
  let (es, comma) ← parenItems g g.bound [] none
  expect (.closing .round)
  if ← atPunct .arrow then
    if ← newlineBefore then failAt start .newlineBeforeArrow
    if !arrowHere then failAt start .strayArrow
    advance
    let params ← toParams comma es
    return ← arrowOrOperation g (← arrowFrom g start async.isSome params)
  -- without an arrow, entries such as `a = 1` mean nothing
  es.forM refuseDefaults
  match async with
  | some n => return .call (← spanFrom start) false (.name n) es
  | none =>
    let e ← parenContent start es
    return .paren (← spanFrom start) e

/-! ### Names -/

/-- A variable, or an arrow function that starts with a name. -/
def named (start : Nat) (arrowHere : Bool) : Parser Expr := do
  let ctx ← read
  if !((← atWord "let") || (← atVariable)) then fail .expressionExpected
  let n ← name (!ctx.isGenerator) (!ctx.isAsync)
  if !arrowHere then return .name n
  if n.text == "async" && !(← newlineBefore) && (← atVariable) then
    if ctx.inForHead && (← atWord "of") then
      if !isPunct .arrow (← peek) then
        if !ctx.inForAwaitHead then note (← get).prev.start .asyncOf
        return .name n
    let p ← declaredName false
    expect .arrow
    return ← arrowFrom g start true [.name p]
  if (← newlineBefore) || !(← atPunct .arrow) then return .name n
  advance
  arrowFrom g start false [.name n]

/-- An expression that starts with the word `async`. -/
def asyncPrimary (start : Nat) (arrowHere : Bool) : Parser Expr := do
  match ← peek with
  | some next =>
    if isWord "function" (some next) && !next.newline then
      advance
      return .function (← functionFrom g start true false)
    if arrowHere && isPunct (.opening .round) (some next) && !next.newline then
      advance
      return ← parenthesised g start arrowHere (some ⟨"async", (← get).prev⟩)
    named g start arrowHere
  | none => named g start arrowHere

/-! ### Any primary expression -/

/-- An expression without operators, accesses and calls. -/
def primary : Parser Expr := do
  match ← look with
  | none => fail .expressionExpected
  | some l =>
    let start := l.span.start
    let arrowHere := (← get).arrowAt == some start
    let leaf (e : Expr) : Parser Expr := do
      advance
      return e
    match l.token with
    | .number value raw => leaf (.number l.span value raw)
    | .bigint _ raw => leaf (.bigint l.span raw)
    | .string value raw => leaf (.string l.span value raw)
    | .punct .backquote =>
      let (quasis, es) ← template g false
      return .template (← spanFrom start) quasis es
    | .punct (.opening .round) => parenthesised g start arrowHere none
    | .punct (.opening .square) => array g
    | .punct (.opening .curly) => object g
    -- where an expression starts, a slash starts a regular expression
    | .punct (.operator (.binary .div)) | .punct (.assign (.compound .div)) => regex
    | .punct .hash =>
      advance
      let n ← propertyName
      return .hash ⟨n.text, ⟨start, n.span.stop⟩⟩
    | .word "this" false => leaf (.this l.span)
    | .word "null" false => leaf (.null l.span)
    | .word "true" false => leaf (.bool l.span true)
    | .word "false" false => leaf (.bool l.span false)
    | .word "function" false => return .function (← functionFrom g start false false)
    | .word "class" false =>
      let c ← classParts g false
      return .classDef (← spanFrom start) c.name c.base c.members
    | .word "async" false => asyncPrimary g start arrowHere
    | .word .. => named g start arrowHere
    | _ => fail .expressionExpected

end Parser

end ScriptCoverage.Source
