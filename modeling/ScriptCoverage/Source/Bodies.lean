import ScriptCoverage.Source.Tree

/-!
Sequential bodies: the statement lists that run from top to bottom, which are those of the script,
of every block and of every case of a switch. `Script.mapBodies` applies a function to all of them,
wherever they stand in the tree, and leaves everything else as it is.
-/

namespace ScriptCoverage.Source

variable (f : List Stmt → List Stmt)

mutual

/-- Applies a function to every sequential body inside an expression, inner bodies first. -/
def Expr.mapBodies : Expr → Expr
  | .template s q es => .template s q (Expr.mapBodiesList es)
  | .tagged s t q es => .tagged s t.mapBodies q (Expr.mapBodiesList es)
  | .array s es => .array s (Expr.mapBodiesList es)
  | .object s es => .object s (Entry.mapBodiesList es)
  | .function g => .function g.mapBodies
  | .lambda s a ps v => .lambda s a (Pat.mapBodiesList ps) v.mapBodies
  | .classDef s n b ms => .classDef s n (Expr.mapBodiesOption b) (Entry.mapBodiesList ms)
  | .unary s op e => .unary s op e.mapBodies
  | .update s op b e => .update s op b e.mapBodies
  | .operation s op l r => .operation s op l.mapBodies r.mapBodies
  | .assign s op t v => .assign s op t.mapBodies v.mapBodies
  | .conditional s t c a => .conditional s t.mapBodies c.mapBodies a.mapBodies
  | .call s o c as => .call s o c.mapBodies (Expr.mapBodiesList as)
  | .superCall s as => .superCall s (Expr.mapBodiesList as)
  | .importCall s p as => .importCall s p (Expr.mapBodiesList as)
  | .construct s c b as => .construct s c.mapBodies b (Expr.mapBodiesList as)
  | .member s o e k => .member s o e.mapBodies k.mapBodies
  | .superMember s k => .superMember s k.mapBodies
  | .sequence s es => .sequence s (Expr.mapBodiesList es)
  | .paren s e => .paren s e.mapBodies
  | .yield s d e => .yield s d (Expr.mapBodiesOption e)
  | .await s e => .await s e.mapBodies
  | .spread s e => .spread s e.mapBodies
  | e => e

def Expr.mapBodiesList : List Expr → List Expr
  | [] => []
  | e :: es => e.mapBodies :: Expr.mapBodiesList es

def Expr.mapBodiesOption : Option Expr → Option Expr
  | none => none
  | some e => some e.mapBodies

def Key.mapBodies : Key → Key
  | .computed s e => .computed s e.mapBodies
  | k => k

def Entry.mapBodies : Entry → Entry
  | .shorthand n => .shorthand n
  | .assigned s n v => .assigned s n v.mapBodies
  | .pair k v => .pair k.mapBodies v.mapBodies
  | .spread s e => .spread s e.mapBodies
  | .method s st m k g => .method s st m k.mapBodies g.mapBodies
  | .constructor s k g => .constructor s k.mapBodies g.mapBodies
  | .field s st k v => .field s st k.mapBodies (Expr.mapBodiesOption v)
  | .initializer s b => .initializer s b.mapBodies
  | .empty s => .empty s

def Entry.mapBodiesList : List Entry → List Entry
  | [] => []
  | e :: es => e.mapBodies :: Entry.mapBodiesList es

def Pat.mapBodies : Pat → Pat
  | .array s ps => .array s (Pat.mapBodiesList ps)
  | .object s ps => .object s (Pat.mapBodiesList ps)
  | .pair k p => .pair k.mapBodies p.mapBodies
  | .shorthand s n v => .shorthand s n (Expr.mapBodiesOption v)
  | .init s p v => .init s p.mapBodies (Expr.mapBodiesOption v)
  | .rest s p => .rest s p.mapBodies
  | .place e => .place e.mapBodies
  | .inner e => .inner e.mapBodies
  | p => p

def Pat.mapBodiesList : List Pat → List Pat
  | [] => []
  | p :: ps => p.mapBodies :: Pat.mapBodiesList ps

def Func.mapBodies : Func → Func
  | .mk s k n a g ps b => .mk s k n a g (Pat.mapBodiesList ps) b.mapBodies

def Block.mapBodies : Block → Block
  | .mk s b => .mk s (f (Stmt.mapBodiesList b))

def Block.mapBodiesOption : Option Block → Option Block
  | none => none
  | some b => some b.mapBodies

def Case.mapBodies : Case → Case
  | .mk s t b => .mk s (Expr.mapBodiesOption t) (f (Stmt.mapBodiesList b))

def Case.mapBodiesList : List Case → List Case
  | [] => []
  | c :: cs => c.mapBodies :: Case.mapBodiesList cs

def Handler.mapBodies : Handler → Handler
  | .mk s p b => .mk s p.mapBodies b.mapBodies

def Handler.mapBodiesOption : Option Handler → Option Handler
  | none => none
  | some h => some h.mapBodies

def Head.mapBodies : Head → Head
  | .none => .none
  | .declare s k ds => .declare s k (Pat.mapBodiesList ds)
  | .value e => .value e.mapBodies
  | .target p => .target p.mapBodies

def Stmt.mapBodies : Stmt → Stmt
  | .expression s e => .expression s e.mapBodies
  | .block b => .block b.mapBodies
  | .withObject s e b => .withObject s e.mapBodies b.mapBodies
  | .returnValue s e => .returnValue s (Expr.mapBodiesOption e)
  | .labeled s l b => .labeled s l b.mapBodies
  | .branch s t c a => .branch s t.mapBodies c.mapBodies (Stmt.mapBodiesOption a)
  | .switch s d cs => .switch s d.mapBodies (Case.mapBodiesList cs)
  | .throwValue s e => .throwValue s e.mapBodies
  | .tryCatch s b h g => .tryCatch s b.mapBodies (Handler.mapBodiesOption h) (Block.mapBodiesOption g)
  | .whileLoop s t b => .whileLoop s t.mapBodies b.mapBodies
  | .doWhile s b t => .doWhile s b.mapBodies t.mapBodies
  | .forLoop s i t u b =>
    .forLoop s i.mapBodies (Expr.mapBodiesOption t) (Expr.mapBodiesOption u) b.mapBodies
  | .forIn s h r b => .forIn s h.mapBodies r.mapBodies b.mapBodies
  | .forOf s a h r b => .forOf s a h.mapBodies r.mapBodies b.mapBodies
  | .declare s k ds => .declare s k (Pat.mapBodiesList ds)
  | .function g => .function g.mapBodies
  | .classDef s n b ms => .classDef s n (Expr.mapBodiesOption b) (Entry.mapBodiesList ms)
  | s => s

def Stmt.mapBodiesList : List Stmt → List Stmt
  | [] => []
  | s :: ss => s.mapBodies :: Stmt.mapBodiesList ss

def Stmt.mapBodiesOption : Option Stmt → Option Stmt
  | none => none
  | some s => some s.mapBodies

end

/-- Applies a function to every sequential body of a script, inner bodies first. -/
def Script.mapBodies (t : Script) : Script :=
  { t with body := f (Stmt.mapBodiesList f t.body) }

end ScriptCoverage.Source
