import Mathlib.Data.List.Basic
import Mathlib.Data.List.Forall2
import ScriptCoverage.Proofs.Source.Children

/-!
The sequential bodies of a tree as a list. A body stands in front of the bodies inside its statements, and
the bodies inside the test of a case stand in front of the case's own. Main statements:

* `Node.mem_bodies` — the list holds the statements of the blocks and cases within a node, and nothing else;
* `Script.bodyRanges_eq` — `bodyRanges` walks the bodies in the order of that list;
* `Script.bodies_mapBodies` — a function that adds only statements without bodies changes the bodies of a
  script one by one.
-/

namespace ScriptCoverage.Source

namespace Node

/-! ### The bodies within a node -/

/-- The sequential bodies within a node. -/
def bodies (n : Node) : List (List Stmt) :=
  let inside := n.children.attach.map fun ⟨c, _⟩ => c.bodies
  match n with
  | block (.mk _ b) => b :: inside.flatten
  | case (.mk _ t b) => (inside.take t.toList.length).flatten ++ b :: (inside.drop t.toList.length).flatten
  | _ => inside.flatten
  termination_by n.size
  decreasing_by exact size_children_lt ‹_›

theorem bodies_of_not_isBody {n : Node} (h : n.isBody = false) : n.bodies = n.children.flatMap bodies := by
  cases n with
  | block | case => cases h
  | _ => simp [bodies, List.flatMap]

theorem bodies_expr (e : Expr) : (expr e).bodies = (ofExpr e).flatMap bodies := bodies_of_not_isBody rfl

theorem bodies_stmt (s : Stmt) : (stmt s).bodies = (ofStmt s).flatMap bodies := bodies_of_not_isBody rfl

theorem bodies_block (s : Span) (b : List Stmt) :
    (block (.mk s b)).bodies = b :: (b.map stmt).flatMap bodies := by
  rw [bodies]
  simp [children, List.flatMap]

theorem bodies_case (s : Span) (t : Option Expr) (b : List Stmt) :
    (case (.mk s t b)).bodies = (t.toList.map expr).flatMap bodies ++ b :: (b.map stmt).flatMap bodies := by
  rw [bodies]
  simp [children, List.flatMap]

theorem bodies_subset_of_mem_children {c n : Node} (h : c ∈ n.children) : c.bodies ⊆ n.bodies := by
  have inside {cs : List Node} (hc : c ∈ cs) : c.bodies ⊆ cs.flatMap bodies :=
    fun _ hb => List.mem_flatMap.2 ⟨c, hc, hb⟩
  cases n with
  | block g =>
    obtain ⟨s, b⟩ := g
    rw [bodies_block]
    exact List.subset_cons_of_subset _ (inside h)
  | case g =>
    obtain ⟨s, t, b⟩ := g
    rw [bodies_case]
    rcases List.mem_append.1 h with h | h
    · exact List.subset_append_of_subset_left _ (inside h)
    · exact List.subset_append_of_subset_right _ (List.subset_cons_of_subset _ (inside h))
  | _ =>
    refine List.Subset.trans (inside h) ?_
    rw [bodies_of_not_isBody rfl]
    exact List.Subset.refl _

/-- The statements of a node that is a sequential body. -/
def body? : Node → Option (List Stmt)
  | block (.mk _ b) => some b
  | case (.mk _ _ b) => some b
  | _ => none

/-- A node within another one: the node itself, or a node within one that stands directly inside it. -/
inductive Within : Node → Node → Prop
  | refl (n : Node) : Within n n
  | child {d c n : Node} (h : c ∈ n.children) (hd : Within d c) : Within d n

/-- The list holds every sequential body within a node, and nothing else. -/
theorem mem_bodies {b : List Stmt} {n : Node} : b ∈ n.bodies ↔ ∃ d : Node, d.Within n ∧ d.body? = some b := by
  constructor
  · induction n using induct with
    | step n ih =>
      have inside {cs : List Node} (hcs : ∀ c ∈ cs, c ∈ n.children) (hb : b ∈ cs.flatMap bodies) :
          ∃ d : Node, d.Within n ∧ d.body? = some b := by
        obtain ⟨c, hc, hbc⟩ := List.mem_flatMap.1 hb
        obtain ⟨d, hd, hdb⟩ := ih c (hcs c hc) hbc
        exact ⟨d, .child (hcs c hc) hd, hdb⟩
      intro hb
      cases n with
      | block g =>
        obtain ⟨s, b'⟩ := g
        rw [bodies_block] at hb
        rcases List.mem_cons.1 hb with rfl | hb
        · exact ⟨_, .refl _, rfl⟩
        · exact inside (fun c hc => hc) hb
      | case g =>
        obtain ⟨s, t, b'⟩ := g
        rw [bodies_case] at hb
        rcases List.mem_append.1 hb with hb | hb
        · exact inside (fun c hc => List.mem_append_left _ hc) hb
        rcases List.mem_cons.1 hb with rfl | hb
        · exact ⟨_, .refl _, rfl⟩
        · exact inside (fun c hc => List.mem_append_right _ hc) hb
      | _ =>
        rw [bodies_of_not_isBody rfl] at hb
        exact inside (fun c hc => hc) hb
  · rintro ⟨d, hd, hb⟩
    induction hd with
    | refl =>
      cases d with
      | block g =>
        obtain ⟨s, b'⟩ := g
        obtain rfl : b' = b := Option.some.inj hb
        simp [bodies_block]
      | case g =>
        obtain ⟨s, t, b'⟩ := g
        obtain rfl : b' = b := Option.some.inj hb
        simp [bodies_case]
      | _ => cases hb
    | child hc _ ih => exact bodies_subset_of_mem_children hc ih

/-- `bodyRanges` walks the bodies in the order of the list. -/
theorem bodyRanges_eq (n : Node) : n.bodyRanges = n.bodies.flatMap (·.map Stmt.span) := by
  induction n using induct with
  | step n ih =>
    have inside (cs : List Node) (hcs : ∀ c ∈ cs, c ∈ n.children) :
        cs.flatMap bodyRanges = (cs.flatMap bodies).flatMap (·.map Stmt.span) := by
      rw [List.flatMap_assoc]
      exact List.flatMap_congr fun c hc => ih c (hcs c hc)
    cases n with
    | block g =>
      obtain ⟨s, b⟩ := g
      have statements := inside (b.map stmt) fun c hc => hc
      rw [bodies_block, List.flatMap_cons, ← statements, bodyRanges]
      simp [children, List.flatMap]
    | case g =>
      obtain ⟨s, t, b⟩ := g
      have test := inside (t.toList.map expr) fun c hc => List.mem_append_left _ hc
      have statements := inside (b.map stmt) fun c hc => List.mem_append_right _ hc
      rw [bodies_case, List.flatMap_append, List.flatMap_cons, ← test, ← statements, bodyRanges]
      simp [children, List.flatMap]
    | _ =>
      rw [bodies_of_not_isBody rfl, ← inside _ fun c hc => hc]
      simp [bodyRanges, List.flatMap]

/-! ### Bodies of a changed tree -/

section Changed

variable {f : List Stmt → List Stmt}

theorem forall₂_flatMap_map {α β : Type} {R : β → β → Prop} {F : α → List β} {g : α → α} {xs : List α}
    (h : ∀ x ∈ xs, List.Forall₂ R (F x) (F (g x))) : List.Forall₂ R (xs.flatMap F) ((xs.map g).flatMap F) := by
  induction xs with
  | nil => exact .nil
  | cons x xs ih =>
    rw [List.map_cons, List.flatMap_cons, List.flatMap_cons]
    exact List.rel_append (h x List.mem_cons_self) (ih fun y hy => h y (List.mem_cons_of_mem _ hy))

/-- A function that adds only statements without bodies to a list changes the bodies of a tree one by one. -/
theorem bodies_mapBodies (h : ∀ b, (f b).flatMap (fun s => (stmt s).bodies) = b.flatMap fun s => (stmt s).bodies)
    (n : Node) :
    List.Forall₂ (fun b b' => b' = f (b.map (Stmt.mapBodies f))) n.bodies (n.mapBodies f).bodies := by
  induction n using induct with
  | step n ih =>
    have inside {cs : List Node} (hcs : ∀ c ∈ cs, c ∈ n.children) :
        List.Forall₂ (fun b b' => b' = f (b.map (Stmt.mapBodies f))) (cs.flatMap bodies)
          ((cs.map (mapBodies f)).flatMap bodies) :=
      forall₂_flatMap_map fun c hc => ih c (hcs c hc)
    have stmts (b : List Stmt) : ((f (b.map (Stmt.mapBodies f))).map stmt).flatMap bodies =
        ((b.map stmt).map (mapBodies f)).flatMap bodies := by
      simpa [List.flatMap_map, mapBodies] using h (b.map (Stmt.mapBodies f))
    cases n with
    | block g =>
      obtain ⟨s, b⟩ := g
      rw [mapBodies, Block.mapBodies, Stmt.mapBodiesList_eq, bodies_block, bodies_block, stmts]
      exact .cons rfl (inside fun c hc => hc)
    | case g =>
      obtain ⟨s, t, b⟩ := g
      rw [mapBodies, Case.mapBodies, Stmt.mapBodiesList_eq, bodies_case, bodies_case, stmts]
      have test : ((Expr.mapBodiesOption f t).toList.map expr) = (t.toList.map expr).map (mapBodies f) := by
        cases t <;> rfl
      rw [test]
      exact List.rel_append (inside fun c hc => List.mem_append_left _ hc)
        (.cons rfl (inside fun c hc => List.mem_append_right _ hc))
    | _ =>
      rw [bodies_of_not_isBody rfl, bodies_of_not_isBody rfl, children_mapBodies f rfl]
      exact inside fun c hc => hc

end Changed

end Node

namespace Script

/-- The sequential bodies of a script, its own statements first. -/
def bodies (t : Script) : List (List Stmt) := t.body :: t.nodes.flatMap Node.bodies

theorem bodyRanges_eq (t : Script) : t.bodyRanges = t.bodies.flatMap (·.map Stmt.span) := by
  rw [bodyRanges, bodies, List.flatMap_cons, List.flatMap_assoc]
  exact congrArg _ (List.flatMap_congr fun n _ => n.bodyRanges_eq)

theorem bodies_mapBodies {f : List Stmt → List Stmt}
    (h : ∀ b, (f b).flatMap (fun s => (Node.stmt s).bodies) = b.flatMap fun s => (Node.stmt s).bodies)
    (t : Script) :
    List.Forall₂ (fun b b' => b' = f (b.map (Stmt.mapBodies f))) t.bodies (t.mapBodies f).bodies := by
  have nodes : (t.mapBodies f).nodes.flatMap Node.bodies = (t.nodes.map (Node.mapBodies f)).flatMap Node.bodies := by
    simpa [Script.nodes, Script.mapBodies, List.flatMap_map, Node.mapBodies] using h (t.body.map (Stmt.mapBodies f))
  rw [bodies, bodies, nodes]
  refine .cons ?_ (Node.forall₂_flatMap_map fun n _ => n.bodies_mapBodies h)
  rw [mapBodies, Stmt.mapBodiesList_eq]

theorem mapBodies_cancel {f g : List Stmt → List Stmt}
    (h : ∀ b : List Stmt, g ((f b).map (Stmt.mapBodies g)) = b.map (Stmt.mapBodies g)) (t : Script) :
    (t.mapBodies f).mapBodies g = t := by
  have body : (t.body.map (Stmt.mapBodies f)).map (Stmt.mapBodies g) = t.body :=
    map_map_eq_self fun s _ => Node.stmt.inj ((Node.stmt s).mapBodies_cancel h)
  rw [mapBodies, mapBodies, Stmt.mapBodiesList_eq, Stmt.mapBodiesList_eq, h, body]

end Script

end ScriptCoverage.Source
