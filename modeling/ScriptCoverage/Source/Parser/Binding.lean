import ScriptCoverage.Source.Parser.Pattern

/-!
What names things: keys of entries and members, patterns that declare names, and parameters.
-/

namespace ScriptCoverage.Source

namespace Parser

variable (g : Grammar)

/-- An expression, which may be several with commas between them. -/
def expression : Parser Expr := do
  let first ← g.assignment
  if !(← atPunct .comma) then return first
  let rest ← collect g.bound do
    if ← eat .comma then return some (← g.assignment) else return none
  return .sequence (← spanFrom first.span.start) (first :: rest)

/-! ### Keys -/

/-- The key of an entry. -/
def key : Parser Key := do
  let l ← require
  match l.token with
  | .word w _ =>
    advance
    return .name ⟨w, l.span⟩
  | .string value raw =>
    advance
    return .string l.span value raw
  | .number value raw =>
    advance
    return .number l.span value raw
  | .bigint _ raw =>
    advance
    return .bigint l.span raw
  | .punct (.opening .square) =>
    advance
    let e ← withIn g.assignment
    expect (.closing .square)
    return .computed (← spanFrom l.span.start) e
  | _ => unexpected "identifier, string literal, numeric literal or [ for the computed key"

/-- Notes that a word kept for later stands for a key and a value at once. -/
def checkShorthand (n : Name) : Parser Unit := do
  if n.text == "enum" || ((← read).strict && isFutureKeyword n.text) then note n.span.start .reservedShorthand

/-! ### Patterns -/

/-- A pattern inside another one, with its default value if it has one. -/
def bindingElement : Parser Pat := do
  let start ← pos
  let p ← g.target false
  if ← eat (.assign .assign) then
    let v ← withIn g.assignment
    return .init (← spanFrom start) p (some v)
  else return p

/-- Takes the comma behind an item, unless the list ends with it. Behind a rest no bracket may follow it. -/
def itemEnd (close : Punct) (isRest : Bool) : Parser Unit := do
  if !(← atPunct close) then
    expect .comma
    if isRest && (← atPunct close) then note (← get).prev.start .commaAfterRest

/-- The elements of an array pattern; `rest` is where one that should be the last has been found, and
those found are reversed. -/
def bindingElements : Nat → (rest : Option Nat) → List Pat → Parser (List Pat)
  | 0, _, _ => fail .tooLong
  | n + 1, rest, found => do
    if (← atEnd) || (← atPunct (.closing .square)) then return found
    if let some offset := rest then note offset .restNotLast
    if ← eat .comma then return ← bindingElements n rest (.hole :: found)
    let start ← pos
    if ← eat .ellipsis then
      let p ← g.target false
      let span ← spanFrom start
      itemEnd (.closing .square) true
      bindingElements n (some start) (.rest span p :: found)
    else
      let p ← bindingElement g
      itemEnd (.closing .square) false
      bindingElements n rest (p :: found)

def isSkipped : Pat → Bool
  | .hole => true
  | _ => false

/-- An array pattern, whose bracket is the current token. Holes at its end are dropped. -/
def arrayTarget : Parser Pat := do
  let start ← pos
  advance
  let reversed ← bindingElements g g.bound none []
  expect (.closing .square)
  return .array (← spanFrom start) (reversed.dropWhile isSkipped).reverse

/-- A property of an object pattern. -/
def bindingProperty : Parser Pat := do
  let start ← pos
  if ← eat .ellipsis then
    let p ← g.target false
    return .rest (← spanFrom start) p
  let k ← key g
  if ← eat .colon then return .pair k (← bindingElement g)
  match k with
  | .name n =>
    if ← eat (.assign .assign) then
      let v ← withIn g.assignment
      return .shorthand (← spanFrom start) n (some v)
    checkShorthand n
    return .shorthand n.span n none
  | _ => unexpected "an identifier"

/-- Checks that only the last property takes the rest, and takes it under a name. -/
def checkRest (comma : Option Nat) : List Pat → Parser Unit
  | [] => return ()
  | [.rest _ (.name _)] => refuseComma comma
  | [.rest s _] => failAt s.start .restNotName
  | .rest s _ :: ps => do
    note s.start .restNotLast
    checkRest comma ps
  | _ :: ps => checkRest comma ps

/-- The items of an object literal or pattern up to its closing brace, which is taken, and the comma
behind the last one if there is one. -/
def braceItems {α : Type} (item : Parser α) : Parser (List α × Option Nat) := do
  let found ← collect g.bound do
    if ← eat (.closing .curly) then return none
    let a ← item
    if !(← atPunct (.closing .curly)) then
      expect .comma
      if ← atPunct (.closing .curly) then return some (a, some (← get).prev.start)
    return some (a, none)
  return (found.map Prod.fst, found.getLast?.bind Prod.snd)

/-- An object pattern, whose brace is the current token. -/
def objectTarget : Parser Pat := do
  let start ← pos
  advance
  let (ps, comma) ← braceItems g (bindingProperty g)
  let span ← spanFrom start
  checkRest comma ps
  return .object span ps

/-- A pattern without a default value. -/
def target (refuseLet : Bool) : Parser Pat := do
  match (← require).token with
  | .word .. => .name <$> declaredName refuseLet
  | .punct (.opening .square) => arrayTarget g
  | .punct (.opening .curly) => objectTarget g
  | _ => unexpected "yield, an identifier, [ or \x7b"

/-! ### Parameters -/

/-- A parameter and whether it takes all that are left. -/
def parameter : Parser (Pat × Bool) := do
  let start ← pos
  if ← eat .ellipsis then
    let p ← g.target false
    if ← eat (.assign .assign) then
      let v ← g.assignment
      note p.span.start .restInitializer
      return (.rest (← spanFrom start) (.init (← spanFrom start) p (some v)), true)
    return (.rest (← spanFrom start) p, true)
  let p ← g.target false
  if ← eat (.assign .assign) then
    let v ← g.assignment
    return (.init (← spanFrom start) p (some v), false)
  return (p, false)

/-- The parameters of a function up to the closing parenthesis; `rest` is where one that should be the
last has been found, and those found are reversed. -/
def parametersBehind : Nat → (rest : Option Nat) → List Pat → Parser (List Pat)
  | 0, _, _ => fail .tooLong
  | n + 1, rest, found => do
    if (← atEnd) || (← atPunct (.closing .round)) then return found.reverse
    if let some offset := rest then note offset .restParameterNotLast
    let (p, isRest) ← parameter g
    itemEnd (.closing .round) isRest
    parametersBehind n (if isRest then some p.span.start else rest) (p :: found)

def parameters : Parser (List Pat) := parametersBehind g g.bound none []

end Parser

end ScriptCoverage.Source
