import ScriptCoverage.Number.Decimal
import ScriptCoverage.Program.Tree
import ScriptCoverage.Source.Node
import ScriptCoverage.Source.Script

/-!
From the tree of a script to an executable program. Forms without a meaning for runs (classes,
generators, destructuring, spreads and others) are refused at their offset, the first one in visiting
order; `Script.lower` refuses a script iff it holds one of them, and otherwise keeps every range.
-/

namespace ScriptCoverage.Source

/-- Refuses a form. -/
def unsupported {α : Type} (construct : String) (s : Span) : Except ParseError α :=
  .error (.unsupported construct s.start)

/-- The name that a pattern binds, if it is nothing but a name. -/
def Pat.boundName : Pat → Except ParseError String
  | .name n => .ok n.text
  | p => unsupported "destructuring pattern" p.span

def Pat.boundNames : List Pat → Except ParseError (List String)
  | [] => .ok []
  | p :: ps => do return (← p.boundName) :: (← Pat.boundNames ps)

/-- The values of the chunks of a template. -/
def Quasi.values : List Quasi → Except ParseError (List String)
  | [] => .ok []
  | q :: qs =>
    match q.cooked with
    | some text => do return text :: (← Quasi.values qs)
    | none => unsupported "invalid template escape" q.span

mutual

def Expr.lower : Expr → Except ParseError Program.Expr
  | .name n => .ok (.place (.name n.span n.text))
  | .this s => .ok (.this s)
  | .null s => .ok (.null s)
  | .bool s b => .ok (.bool s b)
  | .number s value _ => .ok (.number s value)
  | .bigint s _ => unsupported "literal" s
  | .string s value _ => .ok (.string s value)
  | .regex s pattern flags => .ok (.regex s pattern flags)
  | .template s quasis es => do return .template s (← Quasi.values quasis) (← Expr.lowerAll es)
  | .tagged s .. => unsupported "tagged template" s
  | .array s es => do return .array s (← Expr.lowerAll es)
  | .object s es => do return .object s (← Entry.lowerAll es)
  | .function f => do return .function (← f.lower)
  | .lambda s isAsync ps value =>
    if isAsync then unsupported "async arrow function" s
    else do
      let params ← Pat.boundNames ps
      return .function (.lambda s params (← value.lower))
  | .classDef s .. => unsupported "class expression" s
  | .unary s op e => do return .unary s op (← e.lower)
  | .update s op before e => do return .update s op before (← e.lowerPlace)
  | .operation s (.binary op) l r => do return .binary s op (← l.lower) (← r.lower)
  | .operation s (.logical op) l r => do return .logical s op (← l.lower) (← r.lower)
  | .assign s op t v => do return .assign s op (← t.lowerTarget) (← v.lower)
  | .conditional s t c a => do return .conditional s (← t.lower) (← c.lower) (← a.lower)
  | .call s true .. => unsupported "optional chain" s
  | .call s false c as => do return .call s (← c.lower) (← Expr.lowerAll as)
  | .superCall s _ | .importCall s .. => unsupported "super or import call" s
  | .construct s c _ as => do return .construct s (← c.lower) (← Expr.lowerAll as)
  | .member s true .. => unsupported "optional chain" s
  | .member s false o k => do return .place (← k.lowerAccess s (← o.lower))
  | .superMember s _ => unsupported "super property" s
  | .sequence s es => do return .sequence s (← Expr.lowerAll es)
  | .paren _ e => e.lower
  | .yield s .. => unsupported "yield expression" s
  | .await s _ => unsupported "await expression" s
  | .newTarget s | .importMeta s => unsupported "meta property" s
  | .hash n => unsupported "expression" n.span
  | .spread dots _ => unsupported "spread element" dots
  | .hole => .ok .hole

def Expr.lowerAll : List Expr → Except ParseError (List Program.Expr)
  | [] => .ok []
  | e :: es => do return (← e.lower) :: (← Expr.lowerAll es)

def Expr.lowerOption : Option Expr → Except ParseError (Option Program.Expr)
  | none => .ok none
  | some e => do return some (← e.lower)

/-- The operand of `++` and `--`, or the target of an assignment. -/
def Expr.lowerPlace : Expr → Except ParseError Program.Place
  | .paren _ e => e.lowerPlace
  | .name n => .ok (.name n.span n.text)
  | .member s false o k => do k.lowerAccess s (← o.lower)
  | e => unsupported "assignment target" e.span

/-- The property of an object that a key names. -/
def Key.lowerAccess (s : Span) (object : Program.Expr) : Key → Except ParseError Program.Place
  | .name n => .ok (.member s object n.text)
  | .computed _ e => do return .index s object (← e.lower)
  | .hash n => unsupported "private name" n.span
  | .string s .. | .number s .. | .bigint s _ => unsupported "property key" s

def Key.lower : Key → Except ParseError Program.Key
  | .name n => .ok (.fixed n.text)
  | .string _ value _ => .ok (.fixed value)
  | .number _ value _ => .ok (.fixed (numberText value))
  | .bigint s _ => unsupported "property key" s
  | .computed _ e => do return .computed (← e.lower)
  | .hash n => unsupported "property key" n.span

def Entry.lower : Entry → Except ParseError Program.Entry
  | .shorthand n => .ok (.mk .init (.fixed n.text) (.place (.name n.span n.text)))
  | .pair k v => do return .mk .init (← k.lower) (← v.lower)
  | .spread dots _ => unsupported "object spread" dots
  | .method _ _ .method k f => do return .mk .init (← k.lower) (.function (← f.lower))
  | .method _ _ .getter k f => do return .mk .get (← k.lower) (.function (← f.lower))
  | .method _ _ .setter k f => do return .mk .set (← k.lower) (.function (← f.lower))
  | .assigned s .. | .constructor s .. | .field s .. | .initializer s _ | .empty s => unsupported "object property" s

def Entry.lowerAll : List Entry → Except ParseError (List Program.Entry)
  | [] => .ok []
  | e :: es => do return (← e.lower) :: (← Entry.lowerAll es)

/-- The target of an assignment, or what receives the keys of a `for`-`in` loop. -/
def Pat.lowerTarget : Pat → Except ParseError Program.Place
  | .name n => .ok (.name n.span n.text)
  | .place e | .inner e => e.lowerPlace
  | p => unsupported "destructuring assignment" p.span

/-- A declared name with its value. -/
def Pat.lowerDeclarator : Pat → Except ParseError Program.Declarator
  | .init s p v => do
    let name ← p.boundName
    return .mk s name (← Expr.lowerOption v)
  | p => do return .mk p.span (← p.boundName) none

def Pat.lowerDeclarators : List Pat → Except ParseError (List Program.Declarator)
  | [] => .ok []
  | p :: ps => do return (← p.lowerDeclarator) :: (← Pat.lowerDeclarators ps)

def Func.lower : Func → Except ParseError Program.Func
  | .mk s kind n isAsync isGenerator ps b =>
    if isGenerator then unsupported "generator function" s
    else if isAsync then
      unsupported (match kind with
        | .plain => "async function"
        | .arrow => "async arrow function") s
    else do
      let params ← Pat.boundNames ps
      return .mk s (n.map Name.text) params (kind == .arrow) (← b.lower)

def Block.lower : Block → Except ParseError Program.Block
  | .mk s b => do return .mk s (← Stmt.lowerAll b)

def Block.lowerOption : Option Block → Except ParseError (Option Program.Block)
  | none => .ok none
  | some b => do return some (← b.lower)

def Case.lower : Case → Except ParseError Program.Case
  | .mk s t b => do return .mk s (← Expr.lowerOption t) (← Stmt.lowerAll b)

def Case.lowerAll : List Case → Except ParseError (List Program.Case)
  | [] => .ok []
  | c :: cs => do return (← c.lower) :: (← Case.lowerAll cs)

def Handler.lower : Handler → Except ParseError Program.Handler
  | .mk s .hole b => do return .mk s none (← b.lower)
  | .mk s p b => do
    let name ← p.boundName
    return .mk s (some name) (← b.lower)

def Handler.lowerOption : Option Handler → Except ParseError (Option Program.Handler)
  | none => .ok none
  | some h => do return some (← h.lower)

def Head.lowerInit : Head → Except ParseError Program.Init
  | .none => .ok .none
  | .declare _ kind ds => do return .declare kind (← Pat.lowerDeclarators ds)
  | .value e => do return .value (← e.lower)
  | .target p => unsupported "destructuring pattern" p.span

def Head.lowerReceiver : Head → Except ParseError Program.Receiver
  | .declare _ kind [.init _ p none] => do return .declare kind (← p.boundName)
  | .declare s .. => unsupported "for-in declaration" s
  | .target (.name n) => .ok (.place (.name n.span n.text))
  | .target (.place e) | .target (.inner e) | .value e => do return .place (← e.lowerPlace)
  | .target p => unsupported "destructuring pattern" p.span
  | .none => unsupported "for-in head" .dummy

def Stmt.lower : Stmt → Except ParseError Program.Stmt
  | .expression s e => do return .expression s (← e.lower)
  | .block b => do return .block (← b.lower)
  | .empty s => .ok (.empty s)
  | .debugger s => .ok (.debugger s)
  | .withObject s o b => do return .withObject s (← o.lower) (← b.lower)
  | .returnValue s e => do return .returnValue s (← Expr.lowerOption e)
  | .labeled s l b => do return .labeled s l.text (← b.lower)
  | .breakTo s l => .ok (.breakTo s (l.map Name.text))
  | .continueTo s l => .ok (.continueTo s (l.map Name.text))
  | .branch s t c a => do return .branch s (← t.lower) (← c.lower) (← Stmt.lowerOption a)
  | .switch s d cs => do return .switch s (← d.lower) (← Case.lowerAll cs)
  | .throwValue s e => do return .throwValue s (← e.lower)
  | .tryCatch s b h f => do
    return .tryCatch s (← b.lower) (← Handler.lowerOption h) (← Block.lowerOption f)
  | .whileLoop s t b => do return .whileLoop s (← t.lower) (← b.lower)
  | .doWhile s b t => do return .doWhile s (← b.lower) (← t.lower)
  | .forLoop s i t u b => do
    return .forLoop s (← i.lowerInit) (← Expr.lowerOption t) (← Expr.lowerOption u) (← b.lower)
  | .forIn s h r b => do return .forIn s (← h.lowerReceiver) (← r.lower) (← b.lower)
  | .forOf s .. => unsupported "for-of loop" s
  | .declare s kind ds => do return .declare s kind (← Pat.lowerDeclarators ds)
  | .function f => do return .function (← f.lower)
  | .classDef s .. => unsupported "class declaration" s

def Stmt.lowerAll : List Stmt → Except ParseError (List Program.Stmt)
  | [] => .ok []
  | s :: ss => do return (← s.lower) :: (← Stmt.lowerAll ss)

def Stmt.lowerOption : Option Stmt → Except ParseError (Option Program.Stmt)
  | none => .ok none
  | some s => do return some (← s.lower)

end

/-- The program that a script stands for. -/
def Script.lower (t : Script) : Except ParseError Program := do return ⟨t.span, ← Stmt.lowerAll t.body⟩

/-- Reads a text and lowers it. -/
def compile (source : String) : Except ParseError Program := do (← Script.parse source).lower

end ScriptCoverage.Source
