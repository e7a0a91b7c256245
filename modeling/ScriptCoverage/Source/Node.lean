import ScriptCoverage.Source.Tree

/-!
Ranges of the nodes of a tree, and the nodes that stand directly inside another one. `Node.children`
lists them in visiting order, which is that of evaluation except where a doc comment says otherwise.
-/

namespace ScriptCoverage.Source

/-! ### Ranges -/

def Func.span : Func → Span
  | .mk s .. => s

def Func.params : Func → List Pat
  | .mk _ _ _ _ _ ps _ => ps

def Func.isAsync : Func → Bool
  | .mk _ _ _ isAsync .. => isAsync

def Func.isGenerator : Func → Bool
  | .mk _ _ _ _ isGenerator .. => isGenerator

def Block.span : Block → Span
  | .mk s _ => s

def Block.body : Block → List Stmt
  | .mk _ b => b

def Case.span : Case → Span
  | .mk s .. => s

def Expr.span : Expr → Span
  | .name n | .hash n => n.span
  | .function f => f.span
  | .hole => .dummy
  | .this s | .null s | .bool s _ | .number s .. | .bigint s _ | .string s .. | .regex s ..
  | .template s .. | .tagged s .. | .array s _ | .object s _ | .lambda s .. | .classDef s .. | .unary s ..
  | .update s .. | .operation s .. | .assign s .. | .conditional s .. | .call s .. | .superCall s _
  | .importCall s .. | .construct s .. | .member s .. | .superMember s _ | .sequence s _ | .paren s _
  | .yield s .. | .await s _ | .newTarget s | .importMeta s | .spread s _ => s

def Key.span : Key → Span
  | .name n | .hash n => n.span
  | .string s .. | .number s .. | .bigint s _ | .computed s _ => s

def Pat.span : Pat → Span
  | .name n => n.span
  | .hole => .dummy
  | .pair k _ => k.span
  | .array s _ | .object s _ | .shorthand s .. | .init s .. | .rest s _ => s
  | .place e | .inner e => e.span

def Stmt.span : Stmt → Span
  | .block b => b.span
  | .function f => f.span
  | .expression s _ | .empty s | .debugger s | .withObject s .. | .returnValue s _ | .labeled s ..
  | .breakTo s _ | .continueTo s _ | .branch s .. | .switch s .. | .throwValue s _ | .tryCatch s ..
  | .whileLoop s .. | .doWhile s .. | .forLoop s .. | .forIn s .. | .forOf s .. | .declare s ..
  | .classDef s .. => s

/-! ### Nodes -/

/-- Any node of a tree. -/
inductive Node
  | expr (e : Expr)
  | key (k : Key)
  | entry (e : Entry)
  | pat (p : Pat)
  | func (f : Func)
  | block (b : Block)
  | case (c : Case)
  | handler (h : Handler)
  | head (h : Head)
  | stmt (s : Stmt)

namespace Node

/-- The nodes directly inside an expression. -/
def ofExpr : Expr → List Node
  | .name _ | .this _ | .null _ | .bool .. | .number .. | .bigint .. | .string .. | .regex ..
  | .newTarget _ | .importMeta _ | .hash _ | .hole => []
  | .template _ _ es | .array _ es | .superCall _ es | .importCall _ _ es | .sequence _ es => es.map .expr
  | .tagged _ t _ es => .expr t :: es.map .expr
  | .object _ es => es.map .entry
  | .function f => [.func f]
  | .lambda _ _ ps v => ps.map .pat ++ [.expr v]
  | .classDef _ _ base ms => ms.map .entry ++ (base.toList.map .expr)
  | .unary _ _ e | .update _ _ _ e | .paren _ e | .await _ e | .spread _ e => [.expr e]
  | .operation _ _ l r => [.expr l, .expr r]
  | .assign _ _ t v => [.pat t, .expr v]
  | .conditional _ t c a => [.expr t, .expr c, .expr a]
  | .call _ _ c as => .expr c :: as.map .expr
  | .construct _ c _ as => .expr c :: as.map .expr
  | .member _ _ o k => [.expr o, .key k]
  | .superMember _ k => [.key k]
  | .yield _ _ e => e.toList.map .expr

/-- The nodes directly inside a statement; a loop that tests behind its body lists the test first. -/
def ofStmt : Stmt → List Node
  | .empty _ | .debugger _ | .breakTo .. | .continueTo .. => []
  | .expression _ e | .throwValue _ e => [.expr e]
  | .block b => [.block b]
  | .withObject _ o b => [.expr o, .stmt b]
  | .returnValue _ e => e.toList.map .expr
  | .labeled _ _ b => [.stmt b]
  | .branch _ t c a => .expr t :: .stmt c :: a.toList.map .stmt
  | .switch _ d cs => .expr d :: cs.map .case
  | .tryCatch _ b h f => .block b :: h.toList.map .handler ++ f.toList.map .block
  | .whileLoop _ t b => [.expr t, .stmt b]
  | .doWhile _ b t => [.expr t, .stmt b]
  | .forLoop _ i t u b => .head i :: t.toList.map .expr ++ u.toList.map .expr ++ [.stmt b]
  | .forIn _ h r b | .forOf _ _ h r b => [.head h, .expr r, .stmt b]
  | .declare _ _ ds => ds.map .pat
  | .function f => [.func f]
  | .classDef _ _ base ms => ms.map .entry ++ base.toList.map .expr

/-- The nodes directly inside a node. A simple assignment target is no node of its own, so the nodes
inside it count as those of the assignment. -/
def children : Node → List Node
  | expr e => ofExpr e
  | key (.computed _ e) => [expr e]
  | key _ => []
  | entry (.shorthand _) | entry (.empty _) => []
  | entry (.assigned _ _ v) => [expr v]
  | entry (.pair k v) => [key k, expr v]
  | entry (.spread _ e) => [expr e]
  | entry (.method _ _ _ k f) | entry (.constructor _ k f) => [key k, func f]
  | entry (.field _ _ k v) => key k :: v.toList.map expr
  | entry (.initializer _ b) => [block b]
  | pat (.name _) | pat .hole => []
  | pat (.array _ ps) | pat (.object _ ps) => ps.map pat
  | pat (.pair k p) => [key k, pat p]
  | pat (.shorthand _ _ v) => v.toList.map expr
  | pat (.init _ p v) => pat p :: v.toList.map expr
  | pat (.rest _ p) => [pat p]
  | pat (.place e) => ofExpr e
  | pat (.inner e) => [expr e]
  | func (.mk _ _ _ _ _ ps b) => ps.map pat ++ [block b]
  | block (.mk _ b) => b.map stmt
  | case (.mk _ t b) => t.toList.map expr ++ b.map stmt
  | handler (.mk _ p b) => [pat p, block b]
  | head .none => []
  | head (.declare _ _ ds) => ds.map pat
  | head (.value e) => [expr e]
  | head (.target p) => [pat p]
  | stmt s => ofStmt s

/-! ### Size -/

/-- A bound for recursion over the nodes inside a node. -/
noncomputable def size : Node → Nat
  | expr e => sizeOf e
  | key k => sizeOf k
  | entry e => sizeOf e
  | pat p => sizeOf p
  | func f => sizeOf f
  | block b => sizeOf b
  | case c => sizeOf c
  | handler h => sizeOf h
  | head h => sizeOf h
  | stmt s => sizeOf s

theorem size_lt_of_mem_map {α : Type} [SizeOf α] {f : α → Node} (hf : ∀ a, (f a).size = sizeOf a)
    {xs : List α} {c : Node} (h : c ∈ xs.map f) : c.size < sizeOf xs := by
  obtain ⟨a, ha, rfl⟩ := List.mem_map.1 h
  rw [hf]
  exact List.sizeOf_lt_of_mem ha

theorem size_lt_of_mem_toList_map {α : Type} [SizeOf α] {f : α → Node} (hf : ∀ a, (f a).size = sizeOf a)
    {x : Option α} {c : Node} (h : c ∈ x.toList.map f) : c.size < sizeOf x := by
  cases x with
  | none => simp at h
  | some a =>
    have : c = f a := by simpa using h
    subst this
    rw [hf, Option.some.sizeOf_spec]
    omega

theorem size_ofExpr_lt {e : Expr} {c : Node} (h : c ∈ ofExpr e) : c.size < sizeOf e := by
  have exprs {es : List Expr} (h : c ∈ es.map expr) := size_lt_of_mem_map (fun _ => by rw [size]) h
  have entries {es : List Entry} (h : c ∈ es.map entry) := size_lt_of_mem_map (fun _ => by rw [size]) h
  have pats {ps : List Pat} (h : c ∈ ps.map pat) := size_lt_of_mem_map (fun _ => by rw [size]) h
  have optional {x : Option Expr} (h : c ∈ x.toList.map expr) :=
    size_lt_of_mem_toList_map (fun _ => by rw [size]) h
  cases e <;> simp only [ofExpr, List.mem_append, List.mem_cons, List.not_mem_nil, or_false] at h <;>
    simp <;> grind [size]

theorem size_ofStmt_lt {s : Stmt} {c : Node} (h : c ∈ ofStmt s) : c.size < sizeOf s := by
  have entries {es : List Entry} (h : c ∈ es.map entry) := size_lt_of_mem_map (fun _ => by rw [size]) h
  have pats {ps : List Pat} (h : c ∈ ps.map pat) := size_lt_of_mem_map (fun _ => by rw [size]) h
  have cases_ {cs : List Case} (h : c ∈ cs.map case) := size_lt_of_mem_map (fun _ => by rw [size]) h
  have optional {x : Option Expr} (h : c ∈ x.toList.map expr) :=
    size_lt_of_mem_toList_map (fun _ => by rw [size]) h
  have alternate {x : Option Stmt} (h : c ∈ x.toList.map stmt) :=
    size_lt_of_mem_toList_map (fun _ => by rw [size]) h
  have handled {x : Option Handler} (h : c ∈ x.toList.map handler) :=
    size_lt_of_mem_toList_map (fun _ => by rw [size]) h
  have final {x : Option Block} (h : c ∈ x.toList.map block) :=
    size_lt_of_mem_toList_map (fun _ => by rw [size]) h
  cases s <;> simp only [ofStmt, List.mem_append, List.mem_cons, List.not_mem_nil, or_false] at h <;>
    simp <;> grind [size]

/-- What stands inside a node is smaller, so recursion over a tree ends. -/
theorem size_children_lt {n c : Node} (h : c ∈ n.children) : c.size < n.size := by
  have stmts {ss : List Stmt} (h : c ∈ ss.map stmt) := size_lt_of_mem_map (fun _ => by rw [size]) h
  have pats {ps : List Pat} (h : c ∈ ps.map pat) := size_lt_of_mem_map (fun _ => by rw [size]) h
  have optional {x : Option Expr} (h : c ∈ x.toList.map expr) :=
    size_lt_of_mem_toList_map (fun _ => by rw [size]) h
  have exprs {e : Expr} (h : c ∈ ofExpr e) := size_ofExpr_lt h
  have stmt_ {s : Stmt} (h : c ∈ ofStmt s) := size_ofStmt_lt h
  cases n with
  | expr e => simpa [size] using exprs h
  | stmt s => simpa [size] using stmt_ h
  | key k | entry k | pat k | func k | block k | case k | handler k | head k =>
    cases k <;> simp only [children, List.mem_append, List.mem_cons, List.not_mem_nil, or_false] at h <;>
      simp [size] <;> grind [size]

/-! ### Depth -/

/-- Whether a node counts as a level of nesting: statements and expressions do. -/
def isLevel : Node → Bool
  | stmt _ => true
  | expr (.spread ..) | expr .hole => false
  | expr _ => true
  | _ => false

/-- The offset at which a node that counts as a level starts. -/
def start : Node → Nat
  | stmt s => s.span.start
  | expr e => e.span.start
  | _ => 0

/-- The start of the first node, in visiting order, below more than `limit` levels, itself included. -/
def tooDeep? (limit : Nat) (n : Node) : Option Nat :=
  match n.isLevel, limit with
  | true, 0 => some n.start
  | true, limit + 1 => n.children.attach.findSome? fun ⟨c, _⟩ => c.tooDeep? limit
  | false, limit => n.children.attach.findSome? fun ⟨c, _⟩ => c.tooDeep? limit
  termination_by n.size
  decreasing_by all_goals exact size_children_lt ‹_›

/-- The largest number of nested levels in a node, itself included. -/
def height (n : Node) : Nat :=
  (n.children.attach.map fun ⟨c, _⟩ => c.height).foldl max 0 + (if n.isLevel then 1 else 0)
  termination_by n.size
  decreasing_by exact size_children_lt ‹_›

/-! ### Statements in sequential bodies -/

/-- The ranges of the statements of the sequential bodies inside a node: those of a body come before
those of the bodies inside its statements. A case lists what its test holds before its own body. -/
def bodyRanges (n : Node) : List Span :=
  let inside := n.children.attach.map fun ⟨c, _⟩ => c.bodyRanges
  match n with
  | block (.mk _ b) => b.map Stmt.span ++ inside.flatten
  | case (.mk _ t b) =>
    (inside.take t.toList.length).flatten ++ b.map Stmt.span ++ (inside.drop t.toList.length).flatten
  | _ => inside.flatten
  termination_by n.size
  decreasing_by exact size_children_lt ‹_›

end Node

namespace Script

/-- The top-level statements as nodes. -/
def nodes (t : Script) : List Node := t.body.map .stmt

/-- The ranges of the statements of all sequential bodies, those of the script first. -/
def bodyRanges (t : Script) : List Span :=
  t.body.map Stmt.span ++ t.nodes.flatMap Node.bodyRanges

end Script

end ScriptCoverage.Source
