import Mathlib.Data.List.Pairwise
import Mathlib.Data.List.Perm.Basic
import ScriptCoverage.Proofs.Source.SequentialBodies

/-!
Where the statements of a tree stand in its text. Landmarks are the nodes whose ranges matter: statements, blocks and
clauses. `Node.Fits` says of one node how the nearest landmarks inside it lie in the text: apart from each other,
inside of its own range, and behind the tokens that it opens with. Main statements: if this holds of all nodes of a
script, then the ranges of its sequential bodies are nested or apart (`Script.laminar_bodyRanges`), and those of the
bodies within a statement lie strictly inside of it (`Script.strictlyIn_of_mem_bodyRanges`).
-/

namespace ScriptCoverage

namespace Span

/-- Whether a range ends before another one starts. -/
def Precedes (r s : Span) : Prop := r.stop ≤ s.start

/-- Whether a range lies inside of another one and shares no end with it. -/
def StrictlyIn (r s : Span) : Prop := s.start < r.start ∧ r.stop < s.stop

instance (r s : Span) : Decidable (r.Precedes s) := inferInstanceAs (Decidable (_ ≤ _))

instance (r s : Span) : Decidable (r.StrictlyIn s) := inferInstanceAs (Decidable (_ ∧ _))

/-- Whether two ranges have nothing in common. -/
def Apart (r s : Span) : Prop := r.Precedes s ∨ s.Precedes r

instance (r s : Span) : Decidable (r.Apart s) := inferInstanceAs (Decidable (_ ∨ _))

/-- Whether two ranges have nothing in common or one of them lies strictly inside of the other. -/
def Laminar (r s : Span) : Prop := r.Apart s ∨ r.StrictlyIn s ∨ s.StrictlyIn r

theorem Apart.symm {r s : Span} (h : r.Apart s) : s.Apart r := Or.symm h

theorem Laminar.symm {r s : Span} (h : r.Laminar s) : s.Laminar r := h.imp Apart.symm Or.symm

end Span

namespace Source

namespace Node

/-! ### Landmarks -/

/-- The range of a node that has one that matters. -/
def range? : Node → Option Span
  | stmt s => some s.span
  | block b => some b.span
  | case c => some c.span
  | _ => none

def isLandmark (n : Node) : Bool := n.range?.isSome

/-- The nearest landmarks inside a node. -/
def landmarks (n : Node) : List Node :=
  (n.children.attach.map fun ⟨c, _⟩ => if c.isLandmark then [c] else c.landmarks).flatten
  termination_by n.size
  decreasing_by exact size_children_lt ‹_›

/-- What a child of a node contributes to the nearest landmarks. -/
def nearest (c : Node) : List Node := if c.isLandmark then [c] else c.landmarks

theorem landmarks_eq (n : Node) : n.landmarks = n.children.flatMap nearest := by
  rw [landmarks]
  simp only [List.flatMap, List.map_subtype, List.unattach_attach]
  rfl

/-- All nodes within a node. -/
def all (n : Node) : List Node := n :: (n.children.attach.map fun ⟨c, _⟩ => c.all).flatten
  termination_by n.size
  decreasing_by exact size_children_lt ‹_›

theorem all_eq (n : Node) : n.all = n :: n.children.flatMap all := by
  rw [all]
  simp [List.flatMap]

theorem mem_all_self (n : Node) : n ∈ n.all := by
  rw [all_eq]
  exact List.mem_cons_self

theorem all_subset {c n : Node} (h : c ∈ n.children) : c.all ⊆ n.all := fun d inside => by
  rw [all_eq]
  exact List.mem_cons_of_mem _ (List.mem_flatMap.2 ⟨c, h, inside⟩)

/-- A clause stands in nothing but a switch. -/
theorem exists_switch_of_case_mem {g : Case} {n : Node} (h : case g ∈ n.children) :
    ∃ span e cs, n = stmt (.switch span e cs) := by
  cases n with
  | expr e => cases e <;> simp [children, ofExpr] at h
  | stmt s =>
    cases s with
    | switch span e cs => exact ⟨span, e, cs, rfl⟩
    | _ => simp [children, ofStmt] at h
  | pat p =>
    cases p with
    | place e => cases e <;> simp [children, ofExpr] at h
    | _ => simp [children] at h
  | key k | entry k | func k | block k | case k | handler k | head k => cases k <;> simp [children] at h

theorem exists_switch_of_case_mem_landmarks {g : Case} {n : Node} (h : case g ∈ n.landmarks) :
    ∃ span e cs, n = stmt (.switch span e cs) := by
  induction n using induct with
  | step n ih =>
    rw [landmarks_eq] at h
    obtain ⟨c, child, near⟩ := List.mem_flatMap.1 h
    unfold nearest at near
    split at near
    · rw [← List.mem_singleton.1 near] at child
      exact exists_switch_of_case_mem child
    · next hidden =>
      obtain ⟨span, e, cs, rfl⟩ := ih c child near
      exact absurd rfl hidden

/-! ### The ranges of the bodies within a node -/

/-- The ranges of the statements that stand in a node as a sequential body. -/
def ownRanges (n : Node) : List Span := (n.body?.getD []).map Stmt.span

/-- The ranges of the bodies within a node are its own and those within its children, up to their order. -/
theorem bodyRanges_perm (n : Node) : n.bodyRanges.Perm (n.ownRanges ++ n.children.flatMap bodyRanges) := by
  have ranges (cs : List Node) : (cs.flatMap bodies).flatMap (·.map Stmt.span) = cs.flatMap bodyRanges := by
    rw [List.flatMap_assoc]
    exact List.flatMap_congr fun c _ => c.bodyRanges_eq.symm
  rw [bodyRanges_eq]
  cases n with
  | block g =>
    obtain ⟨s, b⟩ := g
    rw [bodies_block, List.flatMap_cons, ranges]
    exact .refl _
  | case g =>
    obtain ⟨s, t, b⟩ := g
    rw [bodies_case, List.flatMap_append, List.flatMap_cons, ranges, ranges]
    refine List.perm_append_comm_assoc _ _ _ |>.trans ?_
    exact .of_eq (by rw [children, List.flatMap_append]; rfl)
  | _ =>
    rw [bodies_of_not_isBody rfl, ranges]
    exact .refl _

/-! ### How landmarks lie in the text -/

/-- How many tokens a node surely opens with before the first landmark inside it: a brace, `case` or `switch`. -/
def opening : Node → Nat
  | block _ | case _ | stmt (.switch ..) => 1
  | _ => 0

/-- How many tokens a node surely ends with behind the last landmark inside it: a closing brace. -/
def closing : Node → Nat
  | block _ | stmt (.switch ..) => 1
  | _ => 0

/-- Whether the nearest landmarks inside a node lie apart in the text, inside of its own range, and those of a
sequential body in their order; and whether its own range is not empty. -/
structure Fits (n : Node) : Prop where
  nonempty : ∀ s ∈ n.range?, s.start < s.stop
  inside : ∀ c ∈ n.landmarks, ∀ r ∈ c.range?, ∀ s ∈ n.range?,
    s.start + n.opening ≤ r.start ∧ r.stop + n.closing ≤ s.stop
  apart : n.landmarks.Pairwise fun c d => ∀ r ∈ c.range?, ∀ s ∈ d.range?, r.Apart s
  ordered : n.ownRanges.Pairwise Span.Precedes

/-- Clauses end with the last statement inside them. -/
def isClause : Node → Bool
  | case _ => true
  | _ => false

/-- Whether a range lies inside of that of a node and behind its first token. Only that of a clause may end with it. -/
def Holds (n : Node) (r : Span) : Prop :=
  ∃ s, n.range? = some s ∧ s.start < r.start ∧ r.stop ≤ s.stop ∧ (n.isClause = false → r.stop < s.stop)

theorem Holds.strictlyIn {s : Stmt} {r : Span} (h : (stmt s).Holds r) : r.StrictlyIn s.span := by
  obtain ⟨t, range, start, -, stop⟩ := h
  obtain rfl := Option.some.inj range
  exact ⟨start, stop rfl⟩

section Laminar

variable {n : Node}

/-- The statements of a sequential body stand directly inside the node that it belongs to. -/
theorem stmt_mem_children {b : List Stmt} (body : n.body? = some b) {s : Stmt} (among : s ∈ b) :
    stmt s ∈ n.children := by
  cases n with
  | block g =>
    obtain ⟨span, b'⟩ := g
    obtain rfl := Option.some.inj body
    exact List.mem_map_of_mem among
  | case g =>
    obtain ⟨span, t, b'⟩ := g
    obtain rfl := Option.some.inj body
    exact List.mem_append_right _ (List.mem_map_of_mem among)
  | _ => cases body

/-- The own ranges of a node are those of statements directly inside it. -/
theorem exists_of_mem_ownRanges {r : Span} (own : r ∈ n.ownRanges) : ∃ s : Stmt, stmt s ∈ n.children ∧ r = s.span := by
  unfold ownRanges at own
  cases body : n.body? with
  | none =>
    rw [body] at own
    cases own
  | some b =>
    rw [body] at own
    obtain ⟨s, among, rfl⟩ := List.mem_map.1 own
    exact ⟨s, stmt_mem_children body among, rfl⟩

theorem nearest_subset {c : Node} (child : c ∈ n.children) : c.nearest ⊆ n.landmarks := fun d near => by
  rw [landmarks_eq]
  exact List.mem_flatMap.2 ⟨c, child, near⟩

theorem nearest_stmt (s : Stmt) : (stmt s).nearest = [stmt s] := rfl

theorem mem_bodyRanges {r : Span} : r ∈ n.bodyRanges ↔ r ∈ n.ownRanges ∨ ∃ c ∈ n.children, r ∈ c.bodyRanges := by
  rw [n.bodyRanges_perm.mem_iff, List.mem_append, List.mem_flatMap]

/-- What stands in a node as a sequential body lies in the node. -/
theorem Fits.holds_own (fits : n.Fits) {r : Span} (own : r ∈ n.ownRanges) : n.isLandmark ∧ n.Holds r := by
  obtain ⟨s, child, rfl⟩ := exists_of_mem_ownRanges own
  have inside := fits.inside (stmt s) (nearest_subset child List.mem_cons_self) s.span rfl
  cases n with
  | block g =>
    obtain ⟨start, stop⟩ := inside g.span rfl
    exact ⟨rfl, g.span, rfl, start, Nat.le_of_succ_le stop, fun _ => stop⟩
  | case g =>
    obtain ⟨start, stop⟩ := inside g.span rfl
    exact ⟨rfl, g.span, rfl, start, stop, nofun⟩
  | _ => cases own

/-- What lies in a landmark inside of a node lies in the node. -/
theorem Fits.holds (fits : n.Fits) (landmark : n.isLandmark) {c : Node} (near : c ∈ n.landmarks) {r : Span}
    (h : c.Holds r) :
    n.Holds r := by
  obtain ⟨s', range', start', stop', clause'⟩ := h
  obtain ⟨s, range⟩ := Option.isSome_iff_exists.1 landmark
  obtain ⟨start, stop⟩ := fits.inside c near s' range' s range
  refine ⟨s, range, by omega, by omega, fun _ => ?_⟩
  cases clause : c.isClause with
  | false =>
    have := clause' clause
    omega
  | true =>
    -- Behind the last clause of a switch there is a brace.
    have closes : n.closing = 1 := by
      cases c with
      | case g =>
        obtain ⟨span, e, cs, rfl⟩ := exists_switch_of_case_mem_landmarks near
        rfl
      | _ => cases clause
    omega

/-- The ranges of the bodies within a node lie in landmarks near it, and in the node itself if it is one. -/
theorem holds_of_mem_bodyRanges (fits : ∀ d ∈ n.all, d.Fits) {r : Span} (mem : r ∈ n.bodyRanges) :
    r.start < r.stop ∧ (∃ c ∈ n.nearest, c.Holds r) := by
  induction n using induct generalizing r with
  | step n ih =>
    have here : n.Fits := fits n n.mem_all_self
    have below {c : Node} (child : c ∈ n.children) : ∀ d ∈ c.all, d.Fits :=
      fun d within => fits d (all_subset child within)
    rcases mem_bodyRanges.1 mem with own | ⟨c, child, mem⟩
    · obtain ⟨s, child, rfl⟩ := exists_of_mem_ownRanges own
      obtain ⟨landmark, holds⟩ := here.holds_own own
      refine ⟨(below child _ (mem_all_self _)).nonempty _ rfl, n, ?_, holds⟩
      rw [nearest, if_pos landmark]
      exact List.mem_singleton_self n
    · obtain ⟨nonempty, x, near, holds⟩ := ih c child (below child) mem
      refine ⟨nonempty, ?_⟩
      unfold nearest
      split
      · next landmark => exact ⟨n, List.mem_singleton_self n, here.holds landmark (nearest_subset child near) holds⟩
      · exact ⟨x, nearest_subset child near, holds⟩

/-- Whether a range is part of that of a node. -/
def Covers (n : Node) (r : Span) : Prop := ∃ s, n.range? = some s ∧ s.start ≤ r.start ∧ r.stop ≤ s.stop

theorem Holds.covers {r : Span} (h : n.Holds r) : n.Covers r :=
  have ⟨s, range, start, stop, _⟩ := h
  ⟨s, range, Nat.le_of_lt start, stop⟩

/-- Whether whatever lies in landmarks near two nodes lies apart. -/
def NearApart (c d : Node) : Prop := ∀ x ∈ c.nearest, ∀ y ∈ d.nearest, ∀ r s, x.Covers r → y.Covers s → r.Apart s

theorem NearApart.symm {c d : Node} (h : c.NearApart d) : d.NearApart c := fun x near y near' r s covers covers' =>
  (h y near' x near s r covers' covers).symm

theorem Fits.apart_children (fits : n.Fits) : n.children.Pairwise NearApart := by
  have apart := fits.apart
  rw [landmarks_eq, List.pairwise_flatMap] at apart
  refine apart.2.imp fun h x near y near' r s covers covers' => ?_
  obtain ⟨r', range, start, stop⟩ := covers
  obtain ⟨s', range', start', stop'⟩ := covers'
  rcases h x near y near' r' range s' range' with first | second
  · exact .inl (Nat.le_trans stop (Nat.le_trans first start'))
  · exact .inr (Nat.le_trans stop' (Nat.le_trans second start))

/-- The ranges of a list of statements and those of the bodies within nodes among which they stand are nested or apart,
if those within each node are and different nodes lie apart. -/
theorem laminar_append {own : List Span} {cs : List Node} (ordered : own.Pairwise Span.Precedes)
    (owned : ∀ r ∈ own, ∃ s, stmt s ∈ cs ∧ r = s.span) (apart : cs.Pairwise NearApart)
    (within : ∀ c ∈ cs, ∀ r ∈ c.bodyRanges, ∃ x ∈ c.nearest, x.Holds r)
    (each : ∀ c ∈ cs, c.bodyRanges.Pairwise Span.Laminar) : (own ++ cs.flatMap bodyRanges).Pairwise Span.Laminar := by
  refine List.pairwise_append.2 ⟨ordered.imp fun first => .inl (.inl first), List.pairwise_flatMap.2 ⟨each, ?_⟩, ?_⟩
  · refine apart.imp_of_mem fun {c d} child child' apart r mem s mem' => .inl ?_
    obtain ⟨x, near, holds⟩ := within c child r mem
    obtain ⟨y, near', holds'⟩ := within d child' s mem'
    exact apart x near y near' r s holds.covers holds'.covers
  · -- The range of a statement, and one within the same node or another one.
    intro a mem r mem'
    obtain ⟨s, child, rfl⟩ := owned a mem
    obtain ⟨c, child', mem'⟩ := List.mem_flatMap.1 mem'
    obtain ⟨x, near, holds⟩ := within c child' r mem'
    have either : stmt s = c ∨ (stmt s).NearApart c := by
      have symm : Std.Symm fun c d : Node => c = d ∨ c.NearApart d := ⟨fun _ _ h => h.imp Eq.symm NearApart.symm⟩
      have apart : cs.Pairwise fun c d => c = d ∨ c.NearApart d := apart.imp .inr
      exact apart.forall_of_forall (fun _ _ => .inl rfl) child child'
    rcases either with rfl | apart
    · rw [nearest_stmt, List.mem_singleton] at near
      subst near
      exact .inr (.inr holds.strictlyIn)
    · have own : (stmt s).Covers s.span := ⟨s.span, rfl, Nat.le_refl _, Nat.le_refl _⟩
      exact .inl (apart (stmt s) List.mem_cons_self x near s.span r own holds.covers)

/-- The ranges of the bodies within a node are nested or apart. -/
theorem laminar_bodyRanges (fits : ∀ d ∈ n.all, d.Fits) : n.bodyRanges.Pairwise Span.Laminar := by
  induction n using induct with
  | step n ih =>
    have here : n.Fits := fits n n.mem_all_self
    have below {c : Node} (child : c ∈ n.children) : ∀ d ∈ c.all, d.Fits :=
      fun d inside => fits d (all_subset child inside)
    rw [n.bodyRanges_perm.pairwise_iff fun h => h.symm]
    exact laminar_append here.ordered (fun _ => exists_of_mem_ownRanges) here.apart_children
      (fun c child _ mem => (holds_of_mem_bodyRanges (below child) mem).2) fun c child => ih c child (below child)

end Laminar

/-! ### Nodes within nodes -/

theorem all_trans {c d n : Node} (inside : c ∈ d.all) (outside : d ∈ n.all) : c ∈ n.all := by
  induction n using induct with
  | step n ih =>
    rw [all_eq, List.mem_cons] at outside
    rcases outside with rfl | outside
    · exact inside
    · obtain ⟨c', child, outside⟩ := List.mem_flatMap.1 outside
      exact all_subset child (ih c' child outside)

theorem mem_all_of_mem_landmarks {c n : Node} (near : c ∈ n.landmarks) : c ∈ n.all := by
  induction n using induct with
  | step n ih =>
    rw [landmarks_eq] at near
    obtain ⟨d, child, near⟩ := List.mem_flatMap.1 near
    unfold nearest at near
    split at near
    · rw [List.mem_singleton.1 near]
      exact all_subset child d.mem_all_self
    · exact all_subset child (ih d child near)

theorem mem_all_iff_within {d n : Node} : d ∈ n.all ↔ d.Within n := by
  constructor
  · induction n using induct with
    | step n ih =>
      intro inside
      rw [all_eq, List.mem_cons] at inside
      rcases inside with rfl | inside
      · exact .refl d
      · obtain ⟨c, child, inside⟩ := List.mem_flatMap.1 inside
        exact .child child (ih c child inside)
  · intro within
    induction within with
    | refl => exact mem_all_self _
    | child child _ ih => exact all_subset child ih

end Node

namespace Script

/-- All nodes of a script. -/
def all (t : Script) : List Node := t.nodes.flatMap Node.all

theorem all_trans {c d : Node} {t : Script} (inside : c ∈ d.all) (outside : d ∈ t.all) : c ∈ t.all := by
  obtain ⟨n, top, outside⟩ := List.mem_flatMap.1 outside
  exact List.mem_flatMap.2 ⟨n, top, Node.all_trans inside outside⟩

theorem mem_all_of_mem_nodes {n : Node} {t : Script} (top : n ∈ t.nodes) : n ∈ t.all :=
  List.mem_flatMap.2 ⟨n, top, n.mem_all_self⟩

/-- The sequential bodies of a script are its own and those of its nodes. -/
theorem mem_bodies_iff {b : List Stmt} {t : Script} : b ∈ t.bodies ↔ b = t.body ∨ ∃ n ∈ t.all, n.body? = some b := by
  rw [bodies, List.mem_cons, List.mem_flatMap]
  refine or_congr_right ?_
  constructor
  · rintro ⟨n, top, inside⟩
    obtain ⟨d, within, body⟩ := Node.mem_bodies.1 inside
    exact ⟨d, List.mem_flatMap.2 ⟨n, top, Node.mem_all_iff_within.2 within⟩, body⟩
  · rintro ⟨d, inside, body⟩
    obtain ⟨n, top, inside⟩ := List.mem_flatMap.1 inside
    exact ⟨n, top, Node.mem_bodies.2 ⟨d, Node.mem_all_iff_within.1 inside, body⟩⟩

/-- The statements of the sequential bodies are nodes of the script. -/
theorem stmt_mem_all {s : Stmt} {b : List Stmt} {t : Script} (body : b ∈ t.bodies) (inside : s ∈ b) :
    Node.stmt s ∈ t.all := by
  rcases mem_bodies_iff.1 body with rfl | ⟨n, within, body⟩
  · exact mem_all_of_mem_nodes (List.mem_map_of_mem inside)
  · exact all_trans (Node.all_subset (Node.stmt_mem_children body inside) (Node.mem_all_self _)) within

/-- The ranges of the bodies within a node are among those of the script. -/
theorem bodyRanges_subset {n : Node} {t : Script} (within : n ∈ t.all) : n.bodyRanges ⊆ t.bodyRanges := fun r mem => by
  rw [Node.bodyRanges_eq] at mem
  rw [bodyRanges_eq]
  obtain ⟨b, body, mem⟩ := List.mem_flatMap.1 mem
  obtain ⟨d, inside, own⟩ := Node.mem_bodies.1 body
  have body : b ∈ t.bodies := mem_bodies_iff.2 (.inr ⟨d, all_trans (Node.mem_all_iff_within.2 inside) within, own⟩)
  exact List.mem_flatMap.2 ⟨b, body, mem⟩

variable {t : Script} (fits : ∀ n ∈ t.all, n.Fits)

include fits

theorem fits_all {n : Node} (inside : n ∈ t.all) : ∀ d ∈ n.all, d.Fits :=
  fun d within => fits d (all_trans within inside)

/-- What stands in the bodies within a statement lies strictly inside of it. -/
theorem strictlyIn_of_mem_bodyRanges {s : Stmt} (inside : Node.stmt s ∈ t.all) {r : Span}
    (mem : r ∈ (Node.stmt s).bodyRanges) : r.StrictlyIn s.span := by
  obtain ⟨-, x, near, holds⟩ := Node.holds_of_mem_bodyRanges (fits_all fits inside) mem
  rw [Node.nearest_stmt, List.mem_singleton] at near
  subst near
  exact holds.strictlyIn

/-- The ranges of the statements of sequential bodies are nested or apart. -/
theorem laminar_bodyRanges (ordered : (t.body.map Stmt.span).Pairwise Span.Precedes) :
    t.bodyRanges.Pairwise Span.Laminar := by
  have apart : t.nodes.Pairwise Node.NearApart := by
    refine List.pairwise_map.2 ((List.pairwise_map.1 ordered).imp fun first x near y near' r s covers covers' => ?_)
    rw [Node.nearest_stmt, List.mem_singleton] at near near'
    subst near near'
    obtain ⟨r', range, -, stop⟩ := covers
    obtain ⟨s', range', start, -⟩ := covers'
    obtain rfl := Option.some.inj range
    obtain rfl := Option.some.inj range'
    exact .inl (Nat.le_trans stop (Nat.le_trans first start))
  refine Node.laminar_append ordered (fun r mem => ?_) apart (fun n top r mem => ?_) fun n top => ?_
  · obtain ⟨s, inside, rfl⟩ := List.mem_map.1 mem
    exact ⟨s, List.mem_map_of_mem inside, rfl⟩
  · exact (Node.holds_of_mem_bodyRanges (fits_all fits (mem_all_of_mem_nodes top)) mem).2
  · exact Node.laminar_bodyRanges (fits_all fits (mem_all_of_mem_nodes top))

end Script

end Source

end ScriptCoverage
