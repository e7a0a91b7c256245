import ScriptCoverage.Machine.Expression
import ScriptCoverage.Program.Hoist

/-!
Sequential bodies of executable programs. `mapBodies` applies a function to all of them, inner bodies first,
as `Source.Script.mapBodies` does for trees; the expression of an arrow is no body. Main statements:

* `Declared.ofBody_map` — statements with changed bodies declare what they declared before, up to the bodies
  of the functions;
* `mapBodies_id` — nothing changes if no body does.
-/

namespace ScriptCoverage.Program

/-! ### Changing all bodies -/

section MapBodies

variable (f : List Stmt → List Stmt)

mutual

def Expr.mapBodies : Expr → Expr
  | .template s q es => .template s q (Expr.mapBodiesList es)
  | .place p => .place p.mapBodies
  | .array s es => .array s (Expr.mapBodiesList es)
  | .object s es => .object s (Entry.mapBodiesList es)
  | .function g => .function g.mapBodies
  | .unary s op e => .unary s op e.mapBodies
  | .update s op b p => .update s op b p.mapBodies
  | .binary s op l r => .binary s op l.mapBodies r.mapBodies
  | .logical s op l r => .logical s op l.mapBodies r.mapBodies
  | .assign s op p e => .assign s op p.mapBodies e.mapBodies
  | .conditional s t c a => .conditional s t.mapBodies c.mapBodies a.mapBodies
  | .call s c es => .call s c.mapBodies (Expr.mapBodiesList es)
  | .construct s c es => .construct s c.mapBodies (Expr.mapBodiesList es)
  | .sequence s es => .sequence s (Expr.mapBodiesList es)
  | e => e

def Expr.mapBodiesList : List Expr → List Expr
  | [] => []
  | e :: es => e.mapBodies :: Expr.mapBodiesList es

def Expr.mapBodiesOption : Option Expr → Option Expr
  | none => none
  | some e => some e.mapBodies

def Place.mapBodies : Place → Place
  | .name s n => .name s n
  | .member s o k => .member s o.mapBodies k
  | .index s o k => .index s o.mapBodies k.mapBodies

def Entry.mapBodies : Entry → Entry
  | .mk kind k v => .mk kind k.mapBodies v.mapBodies

def Entry.mapBodiesList : List Entry → List Entry
  | [] => []
  | e :: es => e.mapBodies :: Entry.mapBodiesList es

def Key.mapBodies : Key → Key
  | .fixed text => .fixed text
  | .computed e => .computed e.mapBodies

def Func.mapBodies : Func → Func
  | .mk s n ps a b => .mk s n ps a b.mapBodies
  | .lambda s ps e => .lambda s ps e.mapBodies

def Block.mapBodies : Block → Block
  | .mk s b => .mk s (f (Stmt.mapBodiesList b))

def Block.mapBodiesOption : Option Block → Option Block
  | none => none
  | some b => some b.mapBodies

def Declarator.mapBodies : Declarator → Declarator
  | .mk s n v => .mk s n (Expr.mapBodiesOption v)

def Declarator.mapBodiesList : List Declarator → List Declarator
  | [] => []
  | d :: ds => d.mapBodies :: Declarator.mapBodiesList ds

def Case.mapBodies : Case → Case
  | .mk s t b => .mk s (Expr.mapBodiesOption t) (f (Stmt.mapBodiesList b))

def Case.mapBodiesList : List Case → List Case
  | [] => []
  | c :: cs => c.mapBodies :: Case.mapBodiesList cs

def Handler.mapBodies : Handler → Handler
  | .mk s n b => .mk s n b.mapBodies

def Handler.mapBodiesOption : Option Handler → Option Handler
  | none => none
  | some h => some h.mapBodies

def Init.mapBodies : Init → Init
  | .none => .none
  | .declare kind ds => .declare kind (Declarator.mapBodiesList ds)
  | .value e => .value e.mapBodies

def Receiver.mapBodies : Receiver → Receiver
  | .declare kind n => .declare kind n
  | .place p => .place p.mapBodies

def Stmt.mapBodies : Stmt → Stmt
  | .expression s e => .expression s e.mapBodies
  | .declare s kind ds => .declare s kind (Declarator.mapBodiesList ds)
  | .function g => .function g.mapBodies
  | .returnValue s e => .returnValue s (Expr.mapBodiesOption e)
  | .branch s t c a => .branch s t.mapBodies c.mapBodies (Stmt.mapBodiesOption a)
  | .block b => .block b.mapBodies
  | .whileLoop s t b => .whileLoop s t.mapBodies b.mapBodies
  | .doWhile s b t => .doWhile s b.mapBodies t.mapBodies
  | .forLoop s i t u b =>
    .forLoop s i.mapBodies (Expr.mapBodiesOption t) (Expr.mapBodiesOption u) b.mapBodies
  | .forIn s r e b => .forIn s r.mapBodies e.mapBodies b.mapBodies
  | .labeled s l b => .labeled s l b.mapBodies
  | .switch s e cs => .switch s e.mapBodies (Case.mapBodiesList cs)
  | .throwValue s e => .throwValue s e.mapBodies
  | .tryCatch s b h g => .tryCatch s b.mapBodies (Handler.mapBodiesOption h) (Block.mapBodiesOption g)
  | .withObject s e b => .withObject s e.mapBodies b.mapBodies
  | s => s

def Stmt.mapBodiesList : List Stmt → List Stmt
  | [] => []
  | s :: ss => s.mapBodies :: Stmt.mapBodiesList ss

def Stmt.mapBodiesOption : Option Stmt → Option Stmt
  | none => none
  | some s => some s.mapBodies

end

/-! ### Lists and options of parts -/

@[simp]
theorem Expr.mapBodiesList_eq (es : List Expr) : Expr.mapBodiesList f es = es.map (Expr.mapBodies f) := by
  induction es with
  | nil => rfl
  | cons e es ih => rw [Expr.mapBodiesList, ih, List.map_cons]

@[simp]
theorem Entry.mapBodiesList_eq (es : List Entry) : Entry.mapBodiesList f es = es.map (Entry.mapBodies f) := by
  induction es with
  | nil => rfl
  | cons e es ih => rw [Entry.mapBodiesList, ih, List.map_cons]

@[simp]
theorem Declarator.mapBodiesList_eq (ds : List Declarator) :
    Declarator.mapBodiesList f ds = ds.map (Declarator.mapBodies f) := by
  induction ds with
  | nil => rfl
  | cons d ds ih => rw [Declarator.mapBodiesList, ih, List.map_cons]

@[simp]
theorem Case.mapBodiesList_eq (cs : List Case) : Case.mapBodiesList f cs = cs.map (Case.mapBodies f) := by
  induction cs with
  | nil => rfl
  | cons c cs ih => rw [Case.mapBodiesList, ih, List.map_cons]

@[simp]
theorem Stmt.mapBodiesList_eq (ss : List Stmt) : Stmt.mapBodiesList f ss = ss.map (Stmt.mapBodies f) := by
  induction ss with
  | nil => rfl
  | cons s ss ih => rw [Stmt.mapBodiesList, ih, List.map_cons]

@[simp]
theorem Expr.mapBodiesOption_eq (e : Option Expr) : Expr.mapBodiesOption f e = e.map (Expr.mapBodies f) := by
  cases e <;> rfl

@[simp]
theorem Stmt.mapBodiesOption_eq (s : Option Stmt) : Stmt.mapBodiesOption f s = s.map (Stmt.mapBodies f) := by
  cases s <;> rfl

@[simp]
theorem Block.mapBodiesOption_eq (b : Option Block) : Block.mapBodiesOption f b = b.map (Block.mapBodies f) := by
  cases b <;> rfl

@[simp]
theorem Handler.mapBodiesOption_eq (h : Option Handler) :
    Handler.mapBodiesOption f h = h.map (Handler.mapBodies f) := by
  cases h <;> rfl

/-- Statements with changed bodies, in a body that is changed itself. -/
def bodyMap (b : List Stmt) : List Stmt := f (b.map (Stmt.mapBodies f))

/-! ### What stays -/

@[simp]
theorem Block.body_mapBodies (b : Block) : (b.mapBodies f).body = bodyMap f b.body := by
  obtain ⟨s, b⟩ := b
  rw [Block.mapBodies, Stmt.mapBodiesList_eq]
  rfl

@[simp]
theorem Func.name_mapBodies (g : Func) : (g.mapBodies f).name = g.name := by cases g <;> rfl

@[simp]
theorem Func.params_mapBodies (g : Func) : (g.mapBodies f).params = g.params := by cases g <;> rfl

@[simp]
theorem Func.isArrow_mapBodies (g : Func) : (g.mapBodies f).isArrow = g.isArrow := by cases g <;> rfl

@[simp]
theorem Expr.span_mapBodies (e : Expr) : (e.mapBodies f).span = e.span := by
  cases e with
  | place p => cases p <;> rfl
  | function g => cases g <;> rfl
  | _ => rfl

@[simp]
theorem Stmt.span_mapBodies (s : Stmt) : (s.mapBodies f).span = s.span := by
  cases s with
  | function g => cases g <;> rfl
  | block b => cases b; rfl
  | _ => rfl

end MapBodies

/-! ### Declarations -/

namespace Declared

/-- A declaration with the bodies inside its function changed. -/
def mapBodies (f : List Stmt → List Stmt) : Declared → Declared
  | .variable name => .variable name
  | .function name decl => .function name (decl.mapBodies f)

variable {f : List Stmt → List Stmt}

theorem ofDeclarators_map (kind : Source.DeclKind) (ds : List Declarator) :
    ofDeclarators kind (ds.map (Declarator.mapBodies f)) = (ofDeclarators kind ds).map (mapBodies f) := by
  cases kind with
  | var =>
    simp only [ofDeclarators, List.map_map]
    exact List.map_congr_left fun d _ => by cases d; rfl
  | _ => rfl

theorem ofInit_map (i : Init) : ofInit (i.mapBodies f) = (ofInit i).map (mapBodies f) := by
  cases i with
  | declare kind ds => simpa [Init.mapBodies, ofInit] using ofDeclarators_map kind ds
  | _ => rfl

theorem ofReceiver_map (r : Receiver) : ofReceiver (r.mapBodies f) = (ofReceiver r).map (mapBodies f) := by
  cases r with
  | declare kind n => cases kind <;> rfl
  | place p => rfl

theorem ofFunction_map (g : Func) : ofFunction (g.mapBodies f) = (ofFunction g).map (mapBodies f) := by
  cases h : g.name <;> simp [ofFunction, h, mapBodies]

/-- Whether a function may change bodies without a change of what they declare. -/
def Inert (f : List Stmt → List Stmt) : Prop := ∀ b, ofBody (f b) = ofBody b

mutual

theorem ofStmt_map (inert : Inert f) (s : Stmt) : ofStmt (s.mapBodies f) = (ofStmt s).map (mapBodies f) := by
  match s with
  | .declare _ kind ds => simpa [Stmt.mapBodies, ofStmt] using ofDeclarators_map kind ds
  | .function g => exact ofFunction_map g
  | .branch _ _ c a => simp [Stmt.mapBodies, ofStmt, ofStmt_map inert c, ofOption_map inert a]
  | .block b => exact ofBlock_map inert b
  | .whileLoop _ _ b | .doWhile _ b _ | .labeled _ _ b | .withObject _ _ b =>
    simp [Stmt.mapBodies, ofStmt, ofStmt_map inert b]
  | .forLoop _ i _ _ b => simp [Stmt.mapBodies, ofStmt, ofInit_map, ofStmt_map inert b]
  | .forIn _ r _ b => simp [Stmt.mapBodies, ofStmt, ofReceiver_map, ofStmt_map inert b]
  | .switch _ _ cs => simp [Stmt.mapBodies, ofStmt, ofCases_map inert cs]
  | .tryCatch _ b h g => simp [Stmt.mapBodies, ofStmt, ofBlock_map inert b, ofHandler_map inert h, ofBlockOption_map inert g]
  | .expression .. | .returnValue .. | .breakTo .. | .continueTo .. | .throwValue .. | .debugger _ | .empty _ => rfl

theorem ofOption_map (inert : Inert f) (s : Option Stmt) :
    ofOption (s.map (Stmt.mapBodies f)) = (ofOption s).map (mapBodies f) := by
  match s with
  | none => rfl
  | some s => exact ofStmt_map inert s

theorem ofStmts_map (inert : Inert f) (b : List Stmt) :
    ofBody (b.map (Stmt.mapBodies f)) = (ofBody b).map (mapBodies f) := by
  match b with
  | [] => rfl
  | s :: ss => simp [ofBody, ofStmt_map inert s, ofStmts_map inert ss]

theorem ofBlock_map (inert : Inert f) (b : Block) : ofBlock (b.mapBodies f) = (ofBlock b).map (mapBodies f) := by
  match b with
  | .mk _ b => simpa [Block.mapBodies, ofBlock, inert _] using ofStmts_map inert b

theorem ofBlockOption_map (inert : Inert f) (b : Option Block) :
    ofBlockOption (b.map (Block.mapBodies f)) = (ofBlockOption b).map (mapBodies f) := by
  match b with
  | none => rfl
  | some b => exact ofBlock_map inert b

theorem ofCases_map (inert : Inert f) (cs : List Case) :
    ofCases (cs.map (Case.mapBodies f)) = (ofCases cs).map (mapBodies f) := by
  match cs with
  | [] => rfl
  | .mk _ _ b :: cs => simp [ofCases, ofCase, Case.mapBodies, inert _, ofStmts_map inert b, ofCases_map inert cs]

theorem ofHandler_map (inert : Inert f) (h : Option Handler) :
    ofHandler (h.map (Handler.mapBodies f)) = (ofHandler h).map (mapBodies f) := by
  match h with
  | none => rfl
  | some (.mk _ _ b) => exact ofBlock_map inert b

end

/-- A body with changed bodies inside declares what it declared before. -/
theorem ofBody_map (inert : Inert f) (b : List Stmt) : ofBody (bodyMap f b) = (ofBody b).map (mapBodies f) :=
  (inert _).trans (ofStmts_map inert b)

theorem ofBody_body_mapBodies (inert : Inert f) (g : Func) :
    ofBody (g.mapBodies f).body = (ofBody g.body).map (mapBodies f) := by
  cases g with
  | mk _ _ _ _ b => simpa [Func.body, Func.block, Func.mapBodies] using ofBody_map inert b.body
  | lambda _ _ e => rfl

end Declared

/-! ### No change -/

mutual

theorem Expr.mapBodies_id (e : Expr) : e.mapBodies id = e := by
  match e with
  | .template _ _ es | .array _ es | .sequence _ es => simp [Expr.mapBodies, Expr.map_mapBodies_id es]
  | .place p => simp [Expr.mapBodies, Place.mapBodies_id p]
  | .object _ es => simp [Expr.mapBodies, Entry.map_mapBodies_id es]
  | .function g => simp [Expr.mapBodies, Func.mapBodies_id g]
  | .unary _ _ e => simp [Expr.mapBodies, Expr.mapBodies_id e]
  | .update _ _ _ p => simp [Expr.mapBodies, Place.mapBodies_id p]
  | .binary _ _ l r | .logical _ _ l r => simp [Expr.mapBodies, Expr.mapBodies_id l, Expr.mapBodies_id r]
  | .assign _ _ p e => simp [Expr.mapBodies, Place.mapBodies_id p, Expr.mapBodies_id e]
  | .conditional _ t c a => simp [Expr.mapBodies, Expr.mapBodies_id t, Expr.mapBodies_id c, Expr.mapBodies_id a]
  | .call _ c es | .construct _ c es => simp [Expr.mapBodies, Expr.mapBodies_id c, Expr.map_mapBodies_id es]
  | .hole | .null _ | .bool .. | .number .. | .string .. | .regex .. | .this _ => rfl

theorem Expr.map_mapBodies_id (es : List Expr) : es.map (Expr.mapBodies id) = es := by
  match es with
  | [] => rfl
  | e :: es => rw [List.map_cons, Expr.mapBodies_id e, Expr.map_mapBodies_id es]

theorem Expr.option_mapBodies_id (e : Option Expr) : e.map (Expr.mapBodies id) = e := by
  match e with
  | none => rfl
  | some e => rw [Option.map_some, Expr.mapBodies_id e]

theorem Place.mapBodies_id (p : Place) : p.mapBodies id = p := by
  match p with
  | .name .. => rfl
  | .member _ o _ => rw [Place.mapBodies, Expr.mapBodies_id o]
  | .index _ o k => rw [Place.mapBodies, Expr.mapBodies_id o, Expr.mapBodies_id k]

theorem Entry.map_mapBodies_id (es : List Entry) : es.map (Entry.mapBodies id) = es := by
  match es with
  | [] => rfl
  | .mk _ k v :: es =>
    rw [List.map_cons, Entry.mapBodies, Key.mapBodies_id k, Expr.mapBodies_id v, Entry.map_mapBodies_id es]

theorem Key.mapBodies_id (k : Key) : k.mapBodies id = k := by
  match k with
  | .fixed _ => rfl
  | .computed e => rw [Key.mapBodies, Expr.mapBodies_id e]

theorem Func.mapBodies_id (g : Func) : g.mapBodies id = g := by
  match g with
  | .mk _ _ _ _ b => rw [Func.mapBodies, Block.mapBodies_id b]
  | .lambda _ _ e => rw [Func.mapBodies, Expr.mapBodies_id e]

theorem Block.mapBodies_id (b : Block) : b.mapBodies id = b := by
  match b with
  | .mk _ ss => rw [Block.mapBodies, Stmt.mapBodiesList_eq, Stmt.map_mapBodies_id ss, id]

theorem Block.option_mapBodies_id (b : Option Block) : b.map (Block.mapBodies id) = b := by
  match b with
  | none => rfl
  | some b => rw [Option.map_some, Block.mapBodies_id b]

theorem Declarator.map_mapBodies_id (ds : List Declarator) : ds.map (Declarator.mapBodies id) = ds := by
  match ds with
  | [] => rfl
  | .mk _ _ v :: ds =>
    rw [List.map_cons, Declarator.mapBodies, Expr.mapBodiesOption_eq, Expr.option_mapBodies_id v,
      Declarator.map_mapBodies_id ds]

theorem Case.map_mapBodies_id (cs : List Case) : cs.map (Case.mapBodies id) = cs := by
  match cs with
  | [] => rfl
  | .mk _ t b :: cs =>
    rw [List.map_cons, Case.mapBodies, Expr.mapBodiesOption_eq, Expr.option_mapBodies_id t,
      Stmt.mapBodiesList_eq, Stmt.map_mapBodies_id b, id, Case.map_mapBodies_id cs]

theorem Handler.option_mapBodies_id (h : Option Handler) : h.map (Handler.mapBodies id) = h := by
  match h with
  | none => rfl
  | some (.mk _ _ b) => rw [Option.map_some, Handler.mapBodies, Block.mapBodies_id b]

theorem Init.mapBodies_id (i : Init) : i.mapBodies id = i := by
  match i with
  | .none => rfl
  | .declare _ ds => rw [Init.mapBodies, Declarator.mapBodiesList_eq, Declarator.map_mapBodies_id ds]
  | .value e => rw [Init.mapBodies, Expr.mapBodies_id e]

theorem Receiver.mapBodies_id (r : Receiver) : r.mapBodies id = r := by
  match r with
  | .declare .. => rfl
  | .place p => rw [Receiver.mapBodies, Place.mapBodies_id p]

theorem Stmt.mapBodies_id (s : Stmt) : s.mapBodies id = s := by
  match s with
  | .expression _ e | .throwValue _ e => simp [Stmt.mapBodies, Expr.mapBodies_id e]
  | .declare _ _ ds => simp [Stmt.mapBodies, Declarator.map_mapBodies_id ds]
  | .function g => simp [Stmt.mapBodies, Func.mapBodies_id g]
  | .returnValue _ e => simp [Stmt.mapBodies, Expr.option_mapBodies_id e]
  | .branch _ t c a => simp [Stmt.mapBodies, Expr.mapBodies_id t, Stmt.mapBodies_id c, Stmt.option_mapBodies_id a]
  | .block b => simp [Stmt.mapBodies, Block.mapBodies_id b]
  | .whileLoop _ t b | .doWhile _ b t | .withObject _ t b =>
    simp [Stmt.mapBodies, Expr.mapBodies_id t, Stmt.mapBodies_id b]
  | .forLoop _ i t u b =>
    simp [Stmt.mapBodies, Init.mapBodies_id i, Expr.option_mapBodies_id t, Expr.option_mapBodies_id u,
      Stmt.mapBodies_id b]
  | .forIn _ r e b => simp [Stmt.mapBodies, Receiver.mapBodies_id r, Expr.mapBodies_id e, Stmt.mapBodies_id b]
  | .labeled _ _ b => simp [Stmt.mapBodies, Stmt.mapBodies_id b]
  | .switch _ e cs => simp [Stmt.mapBodies, Expr.mapBodies_id e, Case.map_mapBodies_id cs]
  | .tryCatch _ b h g =>
    simp [Stmt.mapBodies, Block.mapBodies_id b, Handler.option_mapBodies_id h, Block.option_mapBodies_id g]
  | .breakTo .. | .continueTo .. | .debugger _ | .empty _ => rfl

theorem Stmt.map_mapBodies_id (ss : List Stmt) : ss.map (Stmt.mapBodies id) = ss := by
  match ss with
  | [] => rfl
  | s :: ss => rw [List.map_cons, Stmt.mapBodies_id s, Stmt.map_mapBodies_id ss]

theorem Stmt.option_mapBodies_id (s : Option Stmt) : s.map (Stmt.mapBodies id) = s := by
  match s with
  | none => rfl
  | some s => rw [Option.map_some, Stmt.mapBodies_id s]

end

end ScriptCoverage.Program

namespace ScriptCoverage.Machine

open Program

mutual

theorem describe_mapBodies (f : List Stmt → List Stmt) (e : Expr) : describe (e.mapBodies f) = describe e := by
  match e with
  | .place p => exact describePlace_mapBodies f p
  | .call _ c _ => simp [Expr.mapBodies, describe, describe_mapBodies f c]
  | .hole | .null _ | .bool .. | .number .. | .string .. | .regex .. | .this _ | .template .. | .array .. | .object ..
  | .function _ | .unary .. | .update .. | .binary .. | .logical .. | .assign .. | .conditional ..
  | .construct .. | .sequence .. => rfl

theorem describePlace_mapBodies (f : List Stmt → List Stmt) (p : Place) :
    describe.describePlace (p.mapBodies f) = describe.describePlace p := by
  match p with
  | .name .. => rfl
  | .member _ o _ => simp [Place.mapBodies, describe.describePlace, describe_mapBodies f o]
  | .index _ o k => cases k <;> simp [Place.mapBodies, Expr.mapBodies, describe.describePlace, describe_mapBodies f o]

end

end ScriptCoverage.Machine
