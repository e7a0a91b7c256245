import ScriptCoverage.Source.Parser.Function

/-!
Classes. The words `static`, `get`, `set` and `async` are keys unless a key follows them, and what follows
also tells fields from methods.
-/

namespace ScriptCoverage.Source

namespace Parser

variable (g : Grammar)

/-! ### Keys -/

/-- Whether a key is that of the constructor of a class. -/
def isConstructorKey : Key → Bool
  | .name n => n.text == "constructor"
  | .string _ v _ => v == "constructor"
  | _ => false

/-- The key of a member, which may be private. -/
def memberKey : Parser Key := do
  if ← atPunct .hash then
    let n ← hashName
    if n.text == "constructor" then note n.span.start .privateConstructor
    return .hash n
  else key g

/-! ### Members -/

/-- Whether a field ends, or gets its value, behind its key. -/
def atFieldValue : Parser Bool := do
  return (← atPunct (.assign .assign)) || (← atPunct (.closing .curly))

/-- A field of a class behind its key. -/
def fieldRest (start : Nat) (isStatic : Bool) (k : Key) : Parser Entry := do
  if isConstructorKey k then failAt k.span.start .constructorField
  withReader (fun ctx => { ctx with allowIn := true, inField := true }) do
    let value ← if ← eat (.assign .assign) then some <$> g.assignment else pure none
    if !(← eatStatementEnd) then note (← faultPos) .semicolonExpected
    return .field (← spanFrom start) isStatic k value

/-- A member with a parenthesis behind its key: a method or the constructor. -/
def plainMethod (h : MethodHead) (k : Key) : Parser Entry := do
  if isConstructorKey k && !h.isStatic then
    let f ← functionRest g h.start none false false fun _ => return ()
    return .constructor (← spanFrom h.start) k f
  else methodRest g h k k.span.start

/-- Whether a word is the first half of an accessor, rather than a key of its own. -/
def startsAccessor (k : Key) : Parser Bool := do
  match k with
  | .name n =>
    if n.text != "get" && n.text != "set" then return false
    if (← atFieldValue) || (← atPunct .semicolon) then return false
    return !((← newlineBefore) && (← atPunct (.operator (.binary .mul))))
  | _ => return false

def isNamed (w : String) : Key → Bool
  | .name n => n.text == w
  | _ => false

/-- A member of a class behind the word `static`, if that stands there and is no key. -/
def memberRest (h : MethodHead) : Parser Entry := do
  if h.isStatic && (← atPunct (.opening .curly)) then
    let body ← withReader (fun ctx => { ctx with inStaticBlock := true, inField := true }) (block g false)
    return .initializer (← spanFrom h.start) body
  if ← eat (.operator (.binary .mul)) then
    let k ← memberKey g
    if isConstructorKey k && !h.isStatic then note (← faultPos) .constructorGenerator
    return ← methodRest g { h with isGenerator := true } k k.span.start
  let k ← memberKey g
  if ← atPunct (.opening .round) then return ← plainMethod g h k
  let accessor ← startsAccessor k
  if !accessor && ((← atFieldValue) || (← atStatementEnd)) then return ← fieldRest g h.start h.isStatic k
  if isNamed "async" k && !(← newlineBefore) then
    let isGenerator ← eat (.operator (.binary .mul))
    let second ← memberKey g
    if isConstructorKey second && !h.isStatic then failAt second.span.start .asyncConstructor
    return ← methodRest g { h with isAsync := true, isGenerator } second second.span.start
  if accessor then
    let second ← memberKey g
    if isConstructorKey second && !h.isStatic then note k.span.start .constructorAccessor
    return ← methodRest g { h with kind := if isNamed "get" k then .getter else .setter } second k.span.start
  unexpected "* for generator, private key, identifier or async"

/-- A member of a class. -/
def member : Parser Entry := do
  let start ← pos
  if ← eat .semicolon then return .empty (← spanFrom start)
  if ← eatWord "static" then
    let k : Key := .name ⟨"static", (← get).prev⟩
    if ← atPunct (.opening .round) then return ← plainMethod g { start } k
    if (← atFieldValue) || (← atPunct .semicolon) then return ← fieldRest g start false k
    memberRest g { start, isStatic := true }
  else memberRest g { start }

def isConstructorMember : Entry → Bool
  | .constructor .. => true
  | _ => false

/-- The members of a class up to its closing brace, behind those found, which are reversed;
`hasConstructor` tells whether one of these is the constructor. -/
def membersBehind : Nat → (hasConstructor : Bool) → List Entry → Parser (List Entry)
  | 0, _, _ => fail .tooLong
  | n + 1, hasConstructor, found => do
    if (← atEnd) || (← atPunct (.closing .curly)) then return found.reverse
    let start ← pos
    let m ← withReader ({ · with hasSuper := true }) (member g)
    if hasConstructor && isConstructorMember m then note start .secondConstructor
    membersBehind n (hasConstructor || isConstructorMember m) (m :: found)

/-! ### Classes -/

/-- Name, base and members of a class. -/
structure ClassParts where
  name : Option Name
  base : Option Expr
  members : List Entry

/-- A class from its keyword on, all of which is strict. -/
def classParts (declared : Bool) : Parser ClassParts :=
  withReader ({ · with strict := true }) do
    advance
    let name ← if declared then some <$> declaredName true else declaredName? true
    let base ← if ← eatWord "extends" then some <$> g.leftHandSide else pure none
    if ← eatWord "extends" then
      note (← get).prev.start .secondExtends
      let _ ← g.leftHandSide
    expect (.opening .curly)
    let members ← membersBehind g g.bound false []
    if ← atEnd then
      let got ← shownToken
      note (← faultPos) (.expected "\x7d" got)
    else expect (.closing .curly)
    return { name, base, members }

end Parser

end ScriptCoverage.Source
