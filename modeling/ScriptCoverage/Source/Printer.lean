import ScriptCoverage.Source.Node
import ScriptCoverage.Source.Spelling
import ScriptCoverage.Number.Decimal
import ScriptCoverage.Text.Cut
import ScriptCoverage.Text.Quoted

/-!
The text of a tree. The printer chooses line breaks and blanks only: literals and parentheses are
printed as they were written, and no parentheses are added. Every function takes the depth of
indentation of the line that it prints on.
-/

namespace ScriptCoverage.Source

/-! ### Pieces -/

/-- A line break and the indentation of the next line. -/
def newline (depth : Nat) : String := String.ofList ('\n' :: List.replicate (4 * depth) ' ')

/-- Lines in braces, one level deeper. -/
def braced (depth : Nat) (lines : List String) : String :=
  "\x7b" ++ String.join (lines.map (newline (depth + 1) ++ ·)) ++ newline depth ++ "\x7d"

def commas (items : List String) : String := ", ".intercalate items

/-- A blank between a prefix operator and its operand: behind a word, and where two signs would join. -/
def unaryGap (op : UnaryOp) (arg : Expr) : String :=
  match op, arg with
  | .typeOf, _ | .void, _ | .delete, _ => " "
  | .plus, .unary _ .plus _ | .plus, .update _ .increment true _ => " "
  | .neg, .unary _ .neg _ | .neg, .update _ .decrement true _ => " "
  | _, _ => ""

/-- Whether a point behind a number literal would be read as its decimal point. -/
def needsSecondPoint : Expr → Bool
  | .number _ value raw =>
    let text := (raw.getD (literalText value)).toList.filter (· != '_')
    text.all Char.isDigit && !(text.length ≥ 2 && text.head? == some '0' && raw.isSome)
  | _ => false

/-- Whether an array ends with a hole, which is followed by a comma of its own. -/
def endsWithHole : List Expr → Bool
  | [] => false
  | [.hole] => true
  | _ :: es => endsWithHole es

def Stmt.isBlock : Stmt → Bool
  | .block _ => true
  | _ => false

/-- A text with each of its line ends as a single line feed. -/
def lineFeeds : List Char → List Char
  | [] => []
  | '\r' :: '\n' :: cs => '\n' :: lineFeeds cs
  | '\r' :: cs => '\n' :: lineFeeds cs
  | c :: cs => c :: lineFeeds cs

/-- The chunks of a template with its substitutions between them. -/
def templateText : List String → List String → String
  | [], _ => ""
  | q :: qs, [] => q ++ templateText qs []
  | q :: qs, e :: es => q ++ "$\x7b" ++ e ++ "\x7d" ++ templateText qs es

/-- A template; only behind a tag, which sees the text as it is written, the line ends stay. -/
def quotedTemplate (tagged : Bool) (quasis : List Quasi) (es : List String) : String :=
  let text (q : Quasi) : String := if tagged then q.raw else String.ofList (lineFeeds q.raw.toList)
  "\x60" ++ templateText (quasis.map text) es ++ "\x60"

/-- The words in front of the key of a method. -/
def methodWords (isStatic : Bool) (kind : MethodKind) (isAsync isGenerator : Bool) : String :=
  (if isStatic then "static " else "") ++
  (match kind with
    | .method => ""
    | .getter => "get "
    | .setter => "set ") ++
  (if isAsync then "async " else "") ++ (if isGenerator then "*" else "")

def optionalLink (optional : Bool) : String := if optional then "?." else ""

/-! ### Nodes -/

mutual

def Expr.print (depth : Nat) : Expr → String
  | .name n => n.text
  | .this _ => "this"
  | .null _ => "null"
  | .bool _ b => if b then "true" else "false"
  | .number _ value raw => raw.getD (literalText value)
  | .bigint _ raw => raw
  | .string _ value raw => raw.getD (Text.literal value)
  | .regex _ pattern flags => "/" ++ pattern ++ "/" ++ flags
  | .template _ quasis es => quotedTemplate false quasis (Expr.printAll depth es)
  | .tagged _ tag quasis es => tag.print depth ++ quotedTemplate true quasis (Expr.printAll depth es)
  | .array _ es =>
    if es.isEmpty then "[]"
    else
      "[" ++ newline (depth + 1) ++ ("," ++ newline (depth + 1)).intercalate (Expr.printAll (depth + 1) es) ++
        (if endsWithHole es then ", " else "") ++ newline depth ++ "]"
  | .object _ es =>
    if es.isEmpty then "\x7b\x7d"
    else
      "\x7b" ++ newline (depth + 1) ++
        ("," ++ newline (depth + 1)).intercalate (Entry.printAll false (depth + 1) es) ++ newline depth ++ "\x7d"
  | .function f => f.print depth
  | .lambda _ isAsync ps value =>
    (if isAsync then "async " else "") ++ "(" ++ commas (Pat.printAll depth ps) ++ ")=>" ++ value.print (depth + 1)
  | .classDef _ n base ms =>
    "class " ++ (match n with
      | some n => n.text ++ " "
      | none => "") ++ Expr.printBase depth base ++ braced depth (Entry.printAll true (depth + 1) ms)
  | .unary _ op e => op.text ++ unaryGap op e ++ e.print depth
  | .update _ op before e => if before then op.text ++ e.print depth else e.print depth ++ op.text
  | .operation _ op l r => l.print depth ++ " " ++ op.text ++ " " ++ r.print depth
  | .assign _ op t v => t.print depth ++ " " ++ op.text ++ " " ++ v.print depth
  | .conditional _ t c a => t.print depth ++ " ? " ++ c.print depth ++ " : " ++ a.print depth
  | .call _ optional c as =>
    c.print depth ++ optionalLink optional ++ "(" ++ commas (Expr.printAll depth as) ++ ")"
  | .superCall _ as => "super(" ++ commas (Expr.printAll depth as) ++ ")"
  | .importCall _ phase as => phase.text ++ "(" ++ commas (Expr.printAll depth as) ++ ")"
  | .construct _ c called as =>
    "new " ++ c.print depth ++ (if called then "(" ++ commas (Expr.printAll depth as) ++ ")" else "")
  | .member _ optional o k =>
    o.print depth ++
      (match k with
        | .computed .. => optionalLink optional
        | _ => if optional then "?." else if needsSecondPoint o then ".." else ".") ++ k.print depth
  | .superMember _ k =>
    "super" ++ (match k with
      | .computed .. => ""
      | _ => ".") ++ k.print depth
  | .sequence _ es => commas (Expr.printAll depth es)
  | .paren _ e => "(" ++ e.print depth ++ ")"
  | .yield _ delegate e => "yield" ++ (if delegate then "*" else "") ++ Expr.printAfterBlank depth e
  | .await _ e => "await " ++ e.print depth
  | .newTarget _ => "new.target"
  | .importMeta _ => "import.meta"
  | .hash n => "#" ++ n.text
  | .spread _ e => "..." ++ e.print depth
  | .hole => ""

def Expr.printAll (depth : Nat) : List Expr → List String
  | [] => []
  | e :: es => e.print depth :: Expr.printAll depth es

/-- A blank and an expression, if there is one. -/
def Expr.printAfterBlank (depth : Nat) : Option Expr → String
  | none => ""
  | some e => " " ++ e.print depth

/-- The base of a class. -/
def Expr.printBase (depth : Nat) : Option Expr → String
  | none => ""
  | some e => "extends " ++ e.print depth ++ " "

/-- An equals sign and a value, if there is one. -/
def Expr.printValue (depth : Nat) : Option Expr → String
  | none => ""
  | some e => " = " ++ e.print depth

def Key.print (depth : Nat) : Key → String
  | .name n => n.text
  | .string _ value raw => raw.getD (Text.literal value)
  | .number _ value raw => raw.getD (literalText value)
  | .bigint _ raw => raw
  | .computed _ e => "[" ++ e.print depth ++ "]"
  | .hash n => "#" ++ n.text

/-- An entry of an object, or a member of a class. Methods of objects have a blank behind their key. -/
def Entry.print (inClass : Bool) (depth : Nat) : Entry → String
  | .shorthand n => n.text
  | .assigned _ n v => n.text ++ "=" ++ v.print depth
  | .pair k v => k.print depth ++ ": " ++ v.print depth
  | .spread _ e => "..." ++ e.print depth
  | .method _ isStatic kind k (.mk _ _ _ isAsync isGenerator ps b) =>
    methodWords isStatic kind isAsync isGenerator ++ k.print depth ++ (if inClass then "" else " ") ++
      "(" ++ commas (Pat.printAll depth ps) ++ ")" ++
      (match kind with
        | .setter => if inClass then " " else ""
        | _ => " ") ++ b.print depth
  | .constructor _ k (.mk _ _ _ _ _ ps b) =>
    k.print depth ++ "(" ++ commas (Pat.printAll depth ps) ++ ")" ++ b.print depth
  | .field _ isStatic k v =>
    (if isStatic then "static " else "") ++ k.print depth ++ Expr.printValue depth v ++ ";"
  | .initializer _ b => "static" ++ b.print depth
  | .empty _ => ";"

def Entry.printAll (inClass : Bool) (depth : Nat) : List Entry → List String
  | [] => []
  | e :: es => e.print inClass depth :: Entry.printAll inClass depth es

def Pat.print (depth : Nat) : Pat → String
  | .name n => n.text
  | .hole => ""
  | .array _ ps => "[" ++ commas (Pat.printAll depth ps) ++ "]"
  | .object _ ps => if ps.isEmpty then "\x7b\x7d" else "\x7b " ++ commas (Pat.printAll depth ps) ++ " \x7d"
  | .pair k p => k.print depth ++ ": " ++ p.print depth
  | .shorthand _ n v => n.text ++ Expr.printValue depth v
  | .init _ p v => p.print depth ++ Expr.printValue depth v
  | .rest _ p => "..." ++ p.print depth
  | .place e => e.print depth
  | .inner e => e.print depth

def Pat.printAll (depth : Nat) : List Pat → List String
  | [] => []
  | p :: ps => p.print depth :: Pat.printAll depth ps

def Func.print (depth : Nat) : Func → String
  | .mk _ .arrow _ isAsync _ ps b =>
    (if isAsync then "async " else "") ++ "(" ++ commas (Pat.printAll depth ps) ++ ")=>" ++ b.print depth
  | .mk _ .plain n isAsync isGenerator ps b =>
    (if isAsync then "async " else "") ++ "function" ++ (if isGenerator then "*" else "") ++
      (match n with
        | some n => " " ++ n.text
        | none => "") ++ "(" ++ commas (Pat.printAll depth ps) ++ ") " ++ b.print depth

def Block.print (depth : Nat) : Block → String
  | .mk _ ss => if ss.isEmpty then "\x7b\x7d" else braced depth (Stmt.printAll (depth + 1) ss)

def Case.print (depth : Nat) : Case → String
  | .mk _ test ss =>
    (match test with
      | none => "default"
      | some e => "case " ++ e.print depth) ++ ":" ++
      String.join ((Stmt.printAll (depth + 1) ss).map (newline (depth + 1) ++ ·))

def Case.printAll (depth : Nat) : List Case → List String
  | [] => []
  | c :: cs => c.print depth :: Case.printAll depth cs

/-- A catch clause; without a parameter two blanks stand in its place. -/
def Handler.print (depth : Nat) : Handler → String
  | .mk _ p b =>
    "catch " ++ (match p with
      | .hole => ""
      | p => "(" ++ p.print depth ++ ")") ++ " " ++ b.print depth

def Head.print (depth : Nat) : Head → String
  | .none => ""
  | .declare _ kind ds => kind.text ++ " " ++ commas (Pat.printAll depth ds)
  | .value e => e.print depth
  | .target p => p.print depth

/-- A statement without the line break behind it. A statement that is no block ends the line inside
another one. -/
def Stmt.print (depth : Nat) : Stmt → String
  | .expression _ e => e.print depth ++ ";"
  | .block b => b.print depth
  | .empty _ => ";"
  | .debugger _ => "debugger;"
  | .withObject _ e b => "with (" ++ e.print depth ++ ")" ++ b.print depth
  | .returnValue _ e => "return" ++ Expr.printAfterBlank depth e ++ ";"
  | .labeled _ l b => l.text ++ ": " ++ b.print depth
  | .breakTo _ l => "break" ++ (match l with | some l => " " ++ l.text | none => "") ++ ";"
  | .continueTo _ l => "continue" ++ (match l with | some l => " " ++ l.text | none => "") ++ ";"
  -- behind a block `else` stands on the same line, behind any other statement on one of its own
  | .branch _ t c a =>
    "if (" ++ t.print depth ++ ") " ++ c.print depth ++
      (match a with
        | none => ""
        | some a => (if c.isBlock then " " else newline depth) ++ "else " ++ a.print depth)
  | .switch _ d cs => "switch(" ++ d.print depth ++ ")" ++ braced depth (Case.printAll (depth + 1) cs)
  | .throwValue _ e => "throw " ++ e.print depth ++ ";"
  | .tryCatch _ b h f =>
    "try " ++ b.print depth ++
      (match h with
        | none => ""
        | some h => " " ++ h.print depth) ++
      (match f with
        | none => ""
        | some f => " finally" ++ f.print depth)
  | .whileLoop _ t b => "while(" ++ t.print depth ++ ")" ++ b.print depth
  -- no semicolon stands behind it: the end of the line is enough
  | .doWhile _ b t =>
    "do " ++ b.print depth ++ (if b.isBlock then "" else newline depth) ++ "while (" ++ t.print depth ++ ")"
  | .forLoop _ i t u b =>
    "for(" ++ i.print depth ++ ";" ++ Expr.printAfterBlank depth t ++ ";" ++ Expr.printAfterBlank depth u ++
      ")" ++ b.print depth
  | .forIn _ h r b => "for(" ++ h.print depth ++ " in " ++ r.print depth ++ ")" ++ b.print depth
  | .forOf _ isAwait h r b =>
    "for " ++ (if isAwait then "await " else "") ++ "(" ++ h.print depth ++ " of " ++ r.print depth ++ ")" ++
      b.print depth
  | .declare _ kind ds => kind.text ++ " " ++ commas (Pat.printAll depth ds) ++ ";"
  | .function f => f.print depth
  | .classDef _ n base ms =>
    "class " ++ n.text ++ " " ++ Expr.printBase depth base ++ braced depth (Entry.printAll true (depth + 1) ms)

def Stmt.printAll (depth : Nat) : List Stmt → List String
  | [] => []
  | s :: ss => s.print depth :: Stmt.printAll depth ss

end

/-! ### Scripts -/

/-- The text of top-level statements. Each of them ends its line, except that nothing stands behind a block. -/
def printTop : List Stmt → String
  | [] => ""
  | s :: ss => s.print 0 ++ (if s.isBlock then "" else "\n") ++ printTop ss

/-- The line that names an interpreter. -/
def interpreterLine : Option String → String
  | none => ""
  | some line => "#!" ++ line ++ "\n"

/-- The text of a script. -/
def Script.print (t : Script) : String := interpreterLine t.interpreter ++ printTop t.body

/-- The text of a statement on its own. -/
def Stmt.text (s : Stmt) : String := String.ofList (Text.trimRight (s.print 0).toList)

/-- The text of an expression on its own. -/
def Expr.text (e : Expr) : String := String.ofList (Text.trimRight (e.print 0).toList)

end ScriptCoverage.Source
