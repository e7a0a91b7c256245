import ScriptCoverage.Source.Bodies
import ScriptCoverage.Source.Node

/-!
Induction over the nodes of a tree, and what `mapBodies` does to the nodes inside a node. Main statements:

* `Node.induct` — what holds of a node whenever it holds of the nodes directly inside it holds of all nodes;
* `Node.children_mapBodies` — `mapBodies` changes the children of a node one by one, unless the node is a
  sequential body itself;
* `Node.mapBodies_cancel` — a change of all bodies is undone by one that undoes it body by body.
-/

namespace ScriptCoverage.Source

/-! ### Lists and options of parts -/

section Lists

variable (f : List Stmt → List Stmt)

@[simp]
theorem Expr.mapBodiesList_eq (es : List Expr) : Expr.mapBodiesList f es = es.map (Expr.mapBodies f) := by
  induction es with
  | nil => rfl
  | cons e es ih => rw [Expr.mapBodiesList, ih, List.map_cons]

@[simp]
theorem Entry.mapBodiesList_eq (es : List Entry) : Entry.mapBodiesList f es = es.map (Entry.mapBodies f) := by
  induction es with
  | nil => rfl
  | cons e es ih => rw [Entry.mapBodiesList, ih, List.map_cons]

@[simp]
theorem Pat.mapBodiesList_eq (ps : List Pat) : Pat.mapBodiesList f ps = ps.map (Pat.mapBodies f) := by
  induction ps with
  | nil => rfl
  | cons p ps ih => rw [Pat.mapBodiesList, ih, List.map_cons]

@[simp]
theorem Case.mapBodiesList_eq (cs : List Case) : Case.mapBodiesList f cs = cs.map (Case.mapBodies f) := by
  induction cs with
  | nil => rfl
  | cons c cs ih => rw [Case.mapBodiesList, ih, List.map_cons]

@[simp]
theorem Stmt.mapBodiesList_eq (ss : List Stmt) : Stmt.mapBodiesList f ss = ss.map (Stmt.mapBodies f) := by
  induction ss with
  | nil => rfl
  | cons s ss ih => rw [Stmt.mapBodiesList, ih, List.map_cons]

@[simp]
theorem Expr.mapBodiesOption_eq (e : Option Expr) : Expr.mapBodiesOption f e = e.map (Expr.mapBodies f) := by
  cases e <;> rfl

@[simp]
theorem Stmt.mapBodiesOption_eq (s : Option Stmt) : Stmt.mapBodiesOption f s = s.map (Stmt.mapBodies f) := by
  cases s <;> rfl

@[simp]
theorem Block.mapBodiesOption_eq (b : Option Block) : Block.mapBodiesOption f b = b.map (Block.mapBodies f) := by
  cases b <;> rfl

@[simp]
theorem Handler.mapBodiesOption_eq (h : Option Handler) :
    Handler.mapBodiesOption f h = h.map (Handler.mapBodies f) := by
  cases h <;> rfl

theorem map_map_eq_self {α : Type} {f g : α → α} {xs : List α} (h : ∀ x ∈ xs, g (f x) = x) :
    (xs.map f).map g = xs := by
  rw [List.map_map]
  exact (List.map_congr_left h).trans (List.map_id xs)

theorem map_map_option_eq_self {α : Type} {f g : α → α} {x : Option α} (h : ∀ y ∈ x.toList, g (f y) = y) :
    (x.map f).map g = x := by
  cases x with
  | none => rfl
  | some y => exact congrArg some (h y (by simp))

end Lists

@[simp]
theorem Expr.span_mapBodies (f : List Stmt → List Stmt) (e : Expr) : (e.mapBodies f).span = e.span := by
  cases e with
  | function g => obtain ⟨s, k, n, a, g, ps, b⟩ := g; rfl
  | _ => rfl

@[simp]
theorem Pat.span_mapBodies (f : List Stmt → List Stmt) (p : Pat) : (p.mapBodies f).span = p.span := by
  cases p with
  | pair k => cases k <;> rfl
  | place e | inner e => exact e.span_mapBodies f
  | _ => rfl

@[simp]
theorem Stmt.span_mapBodies (f : List Stmt → List Stmt) (s : Stmt) : (s.mapBodies f).span = s.span := by
  cases s with
  | block b => obtain ⟨s, b⟩ := b; rfl
  | function g => obtain ⟨s, k, n, a, g, ps, b⟩ := g; rfl
  | _ => rfl

/-! ### Nodes -/

namespace Node

/-- Applies a function to every sequential body inside a node. -/
def mapBodies (f : List Stmt → List Stmt) : Node → Node
  | expr e => expr (e.mapBodies f)
  | key k => key (k.mapBodies f)
  | entry e => entry (e.mapBodies f)
  | pat p => pat (p.mapBodies f)
  | func g => func (g.mapBodies f)
  | block b => block (b.mapBodies f)
  | case c => case (c.mapBodies f)
  | handler h => handler (h.mapBodies f)
  | head h => head (h.mapBodies f)
  | stmt s => stmt (s.mapBodies f)

/-- Induction over a tree: a node may rely on the nodes directly inside it. -/
theorem induct {P : Node → Prop} (step : ∀ n, (∀ c ∈ n.children, P c) → P n) (n : Node) : P n :=
  step n fun c _ => induct step c
  termination_by n.size
  decreasing_by exact size_children_lt ‹_›

variable (f : List Stmt → List Stmt)

theorem ofExpr_mapBodies (e : Expr) : ofExpr (e.mapBodies f) = (ofExpr e).map (mapBodies f) := by
  cases e <;>
    simp [Expr.mapBodies, ofExpr, mapBodies, Function.comp_def, Option.toList_map]

theorem ofStmt_mapBodies (s : Stmt) : ofStmt (s.mapBodies f) = (ofStmt s).map (mapBodies f) := by
  cases s <;>
    simp [Stmt.mapBodies, ofStmt, mapBodies, Function.comp_def, Option.toList_map]

/-- Whether the statements inside a node are a sequential body. -/
def isBody : Node → Bool
  | block _ | case _ => true
  | _ => false

theorem children_mapBodies {n : Node} (h : n.isBody = false) :
    (n.mapBodies f).children = n.children.map (mapBodies f) := by
  cases n with
  | expr e => exact ofExpr_mapBodies f e
  | stmt s => exact ofStmt_mapBodies f s
  | block b | case c => cases h
  | pat p =>
    cases p <;> simp [mapBodies, Pat.mapBodies, children, Function.comp_def, ofExpr_mapBodies, Option.toList_map]
  | key k | entry k | func k | handler k | head k =>
    cases k <;>
      simp [mapBodies, Key.mapBodies, Entry.mapBodies, Func.mapBodies, Handler.mapBodies, Head.mapBodies,
        children, Function.comp_def, Option.toList_map]

/-! ### Undoing a change -/

variable {f} {g : List Stmt → List Stmt}

theorem expr_cancel {e : Expr} (ih : ∀ c ∈ ofExpr e, (c.mapBodies f).mapBodies g = c) :
    (e.mapBodies f).mapBodies g = e := by
  have exprs {es : List Expr} (hs : ∀ e ∈ es, (e.mapBodies f).mapBodies g = e) := map_map_eq_self hs
  have pats {ps : List Pat} (hs : ∀ p ∈ ps, (p.mapBodies f).mapBodies g = p) := map_map_eq_self hs
  have entries {es : List Entry} (hs : ∀ e ∈ es, (e.mapBodies f).mapBodies g = e) := map_map_eq_self hs
  have optional {e : Option Expr} (hs : ∀ x ∈ e.toList, (x.mapBodies f).mapBodies g = x) :=
    map_map_option_eq_self hs
  cases e <;>
    simp only [ofExpr, mapBodies, Expr.mapBodies, List.forall_mem_cons, List.forall_mem_append,
      List.forall_mem_map, Expr.mapBodiesList_eq, Pat.mapBodiesList_eq, Entry.mapBodiesList_eq,
      Expr.mapBodiesOption_eq, expr.injEq, pat.injEq, entry.injEq, key.injEq, func.injEq] at ih ⊢ <;>
    simp_all only [List.not_mem_nil, implies_true]

theorem stmt_cancel {s : Stmt} (ih : ∀ c ∈ ofStmt s, (c.mapBodies f).mapBodies g = c) :
    (s.mapBodies f).mapBodies g = s := by
  have pats {ps : List Pat} (hs : ∀ p ∈ ps, (p.mapBodies f).mapBodies g = p) := map_map_eq_self hs
  have entries {es : List Entry} (hs : ∀ e ∈ es, (e.mapBodies f).mapBodies g = e) := map_map_eq_self hs
  have clauses {cs : List Case} (hs : ∀ c ∈ cs, (c.mapBodies f).mapBodies g = c) := map_map_eq_self hs
  have optional {e : Option Expr} (hs : ∀ x ∈ e.toList, (x.mapBodies f).mapBodies g = x) :=
    map_map_option_eq_self hs
  have alternate {s : Option Stmt} (hs : ∀ x ∈ s.toList, (x.mapBodies f).mapBodies g = x) :=
    map_map_option_eq_self hs
  have handled {h : Option Handler} (hs : ∀ x ∈ h.toList, (x.mapBodies f).mapBodies g = x) :=
    map_map_option_eq_self hs
  have final {b : Option Block} (hs : ∀ x ∈ b.toList, (x.mapBodies f).mapBodies g = x) :=
    map_map_option_eq_self hs
  cases s <;>
    simp only [ofStmt, mapBodies, Stmt.mapBodies, List.forall_mem_cons, List.forall_mem_append,
      List.forall_mem_map, Pat.mapBodiesList_eq, Entry.mapBodiesList_eq, Case.mapBodiesList_eq,
      Expr.mapBodiesOption_eq, Stmt.mapBodiesOption_eq, Block.mapBodiesOption_eq,
      Handler.mapBodiesOption_eq, expr.injEq, pat.injEq, entry.injEq, func.injEq, stmt.injEq, block.injEq,
      case.injEq, handler.injEq, head.injEq] at ih ⊢ <;>
    simp_all only [List.not_mem_nil, implies_true]

/-- What `f` does to a body whose statements are changed back is undone by `g`. Then `g` undoes `f` in all
bodies at once. -/
theorem mapBodies_cancel (h : ∀ b : List Stmt, g ((f b).map (Stmt.mapBodies g)) = b.map (Stmt.mapBodies g))
    (n : Node) : (n.mapBodies f).mapBodies g = n := by
  induction n using induct with
  | step n ih =>
    have exprs {es : List Expr} (hs : ∀ e ∈ es, (e.mapBodies f).mapBodies g = e) := map_map_eq_self hs
    have pats {ps : List Pat} (hs : ∀ p ∈ ps, (p.mapBodies f).mapBodies g = p) := map_map_eq_self hs
    have stmts {ss : List Stmt} (hs : ∀ s ∈ ss, (s.mapBodies f).mapBodies g = s) := map_map_eq_self hs
    have optional {e : Option Expr} (hs : ∀ x ∈ e.toList, (x.mapBodies f).mapBodies g = x) :=
      map_map_option_eq_self hs
    cases n with
    | expr e => exact congrArg expr (expr_cancel ih)
    | stmt s => exact congrArg stmt (stmt_cancel ih)
    | pat p =>
      cases p with
      | name | hole => rfl
      | place e => exact congrArg (pat ∘ Pat.place) (expr_cancel ih)
      | _ =>
        simp only [children, mapBodies, Pat.mapBodies, List.forall_mem_cons, List.forall_mem_map,
          Pat.mapBodiesList_eq, Expr.mapBodiesOption_eq, expr.injEq, pat.injEq, key.injEq] at ih ⊢
        simp_all only [List.not_mem_nil, implies_true]
    | key k | entry k | func k | block k | case k | handler k | head k =>
      cases k <;>
        simp only [children, mapBodies, Key.mapBodies, Entry.mapBodies, Func.mapBodies, Block.mapBodies,
          Case.mapBodies, Handler.mapBodies, Head.mapBodies, List.forall_mem_cons, List.forall_mem_append,
          List.forall_mem_map, Pat.mapBodiesList_eq, Stmt.mapBodiesList_eq, Expr.mapBodiesOption_eq,
          expr.injEq, pat.injEq, key.injEq, entry.injEq, func.injEq, stmt.injEq, block.injEq, case.injEq,
          handler.injEq, head.injEq] at ih ⊢
      all_goals simp_all only [List.not_mem_nil, implies_true]

end Node

end ScriptCoverage.Source
