import ScriptCoverage.Source.Parser.Statement

/-!
Reading a whole script. `Script.parse` first counts open brackets and pending operators token by token,
then reads the text, then measures the tree; a text that is nested too deeply in either way is refused.
-/

namespace ScriptCoverage.Source

/-! ### Nesting of tokens -/

/-- How deep a walk over tokens is nested: for every open bracket the number of operators that wait for
an operand, the innermost bracket first, and the text itself last. -/
structure Nesting where
  innermost : Nat := 0
  outer : List Nat := []
  depth : Nat := 0
  afterOperand : Bool := false
  deriving DecidableEq, Repr

/-- What a token means for nesting. -/
inductive NestingClass
  | opens
  | closes
  | separates
  | rightAssociative
  | step
  | sign
  | prefixed
  | operand
  | other
  deriving DecidableEq, Repr

/-- Keywords behind which no operator waits any more. -/
def startsStatement (w : String) : Bool :=
  ["var", "let", "const", "return", "if", "else", "for", "while", "do", "switch", "case", "break",
    "continue", "throw", "try", "catch", "finally", "with", "debugger"].contains w

def NestingClass.ofWord (w : String) : NestingClass :=
  if startsStatement w then .separates
  else if ["typeof", "void", "delete", "new", "await"].contains w then .prefixed
  else if ["default", "function", "class", "extends", "export", "import", "yield", "in",
    "instanceof"].contains w then .other
  else .operand

def NestingClass.ofToken : Token → NestingClass
  | .punct (.opening _) | .punct .substitution => .opens
  | .punct (.closing _) => .closes
  | .punct .semicolon | .punct .comma => .separates
  | .punct (.assign _) | .punct .question | .punct .arrow | .punct (.operator (.binary .exp)) => .rightAssociative
  | .punct .increment | .punct .decrement => .step
  | .punct (.operator (.binary .add)) | .punct (.operator (.binary .sub)) => .sign
  | .punct .bang | .punct .tilde => .prefixed
  | .word w escaped => if escaped then .operand else .ofWord w
  | .string .. | .number .. | .bigint .. => .operand
  | _ => .other

namespace Nesting

/-- Forgets the operators that wait in the innermost bracket. -/
def reset (n : Nesting) : Nesting := { n with innermost := 0, depth := n.depth - n.innermost }

/-- Lets one more operator wait. -/
def extend (n : Nesting) : Nesting := { n with innermost := n.innermost + 1, depth := n.depth + 1 }

/-- A prefix operator, which starts a new expression if an operand stands before it. -/
def prefixOperator (n : Nesting) : Nesting :=
  { (if n.afterOperand then n.reset else n).extend with afterOperand := false }

/-- The nesting behind a token. -/
def step (n : Nesting) (t : Token) : Nesting :=
  match NestingClass.ofToken t with
  | .opens => { innermost := 0, outer := n.innermost :: n.outer, depth := n.depth + 1, afterOperand := false }
  | .closes =>
    match n.outer with
    -- a bracket that closes nothing
    | [] => { n with afterOperand := true }
    | o :: outer => { innermost := o, outer, depth := n.depth - (n.innermost + 1), afterOperand := true }
  | .separates => { n.reset with afterOperand := false }
  | .rightAssociative => { n.extend with afterOperand := false }
  | .step => if n.afterOperand then n else n.prefixOperator
  -- behind an operand a sign is left associative: nothing waits for what follows it
  | .sign => if n.afterOperand then { n with afterOperand := false } else n.prefixOperator
  | .prefixed => n.prefixOperator
  | .operand => { (if n.afterOperand then n.reset else n) with afterOperand := true }
  | .other => { n with afterOperand := (t matches .punct .backquote) }

/-- The start of the first token behind which more than `limit` levels are open. -/
def tooDeep? (limit : Nat) : Nesting → List Lexeme → Option Nat
  | _, [] => none
  | n, l :: ls =>
    let n := n.step l.token
    if limit < n.depth then some l.span.start else tooDeep? limit n ls

end Nesting

/-! ### Scripts -/

namespace Script

/-- The deepest nesting that is accepted unless a caller asks for less. -/
def maxNesting : Nat := 256

/-- Whether another statement of a script comes next. -/
def more : Parser Bool := return (← Parser.look).isSome

/-- Reads the statements of a script from a position on, behind the line of its interpreter. -/
def read (start : Cursor) (interpreter : Option String) : Except Failure Script := do
  let g := Grammar.ofBound (2 * start.rest.length + 8)
  let statements : Parser Script := do
    let first ← Parser.pos
    let body ← Parser.statementsBehind g true more g.bound true []
    -- behind the line of an interpreter the range starts with the text
    let begin_ := if start.pos = 0 then first else 0
    let span ← if body.isEmpty then pure .dummy else Parser.spanFrom begin_
    return ⟨span, interpreter, body⟩
  match statements {} { cursor := start, prev := ⟨start.pos, start.pos⟩ } with
  | .error f _ => throw f
  | .ok script reader =>
    match reader.noted with
    | some f => throw f
    | none => return script

/-- The start of the first statement or expression below more than `limit` levels. -/
def tooDeep? (limit : Nat) (t : Script) : Option Nat := t.nodes.findSome? (Node.tooDeep? limit)

/-- Reads a script that is nested no deeper than `limit`. -/
def parseWithLimit (source : String) (limit : Nat) : Except ParseError Script :=
  let (start, interpreter) := (Cursor.ofString source).afterInterpreterLine
  match Nesting.tooDeep? limit {} (Lexeme.all start) with
  | some offset => .error (.tooDeep limit offset)
  | none =>
    match read start interpreter with
    | .error f => .error (.ofFailure f)
    | .ok t =>
      match t.tooDeep? limit with
      | some offset => .error (.tooDeep limit offset)
      | none => .ok t

/-- Reads a script with the usual limit. -/
def parse (source : String) : Except ParseError Script := parseWithLimit source maxNesting

end Script

end ScriptCoverage.Source
