import ScriptCoverage.Proofs.Source.SequentialBodies
import ScriptCoverage.Source.Script

/-!
How deep the statements of sequential bodies stand in a tree. Main statement: `Node.mapBodies_tooDeep?` — where
a function puts new statements of one height in front of all statements of the bodies it is given, the tree
stays within a limit iff it was within it and leaves room for the new statements wherever they stand.
-/

namespace ScriptCoverage.Source

namespace Node

/-! ### The limit, level by level -/

/-- How many levels a node itself is. -/
def levels (n : Node) : Nat := if n.isLevel then 1 else 0

/-- A node is within a limit iff there is a level for it and the nodes inside it are within the rest. -/
theorem tooDeep?_eq_none {limit : Nat} {n : Node} :
    n.tooDeep? limit = none ↔ n.levels ≤ limit ∧ ∀ c ∈ n.children, c.tooDeep? (limit - n.levels) = none := by
  rw [tooDeep?.eq_def]
  cases h : n.isLevel with
  | true => cases limit <;> simp [levels, h]
  | false => simp [levels, h]

theorem tooDeep?_stmt {limit : Nat} {s : Stmt} :
    (stmt s).tooDeep? limit = none ↔ 1 ≤ limit ∧ ∀ c ∈ ofStmt s, c.tooDeep? (limit - 1) = none :=
  tooDeep?_eq_none

theorem tooDeep?_expr {limit : Nat} {e : Expr} (h : (expr e).isLevel = true) :
    (expr e).tooDeep? limit = none ↔ 1 ≤ limit ∧ ∀ c ∈ ofExpr e, c.tooDeep? (limit - 1) = none := by
  rw [tooDeep?_eq_none, levels, if_pos h, children]

/-- A node within another one, and the number of levels around it. -/
inductive Below : Nat → Node → Node → Prop
  | refl (n : Node) : Below 0 n n
  | child {k : Nat} {d c n : Node} (h : c ∈ n.children) (hd : Below k d c) : Below (k + n.levels) d n

/-- A statement of a sequential body within a node has `k` levels around it. -/
def HasBodyAt (n : Node) (k : Nat) : Prop := ∃ d b, Below k d n ∧ d.body? = some b ∧ b ≠ []

theorem hasBodyAt_iff {n : Node} {k : Nat} :
    n.HasBodyAt k ↔ (k = 0 ∧ ∃ b, n.body? = some b ∧ b ≠ []) ∨
      ∃ c ∈ n.children, n.levels ≤ k ∧ c.HasBodyAt (k - n.levels) := by
  constructor
  · rintro ⟨d, b, hd, hb, hne⟩
    cases hd with
    | refl => exact .inl ⟨rfl, b, hb, hne⟩
    | child hc hd =>
      refine .inr ⟨_, hc, Nat.le_add_left .., d, b, ?_, hb, hne⟩
      rwa [Nat.add_sub_cancel]
  · rintro (⟨rfl, b, hb, hne⟩ | ⟨c, hc, hk, d, b, hd, hb, hne⟩)
    · exact ⟨n, b, .refl n, hb, hne⟩
    · refine ⟨d, b, ?_, hb, hne⟩
      rw [← Nat.sub_add_cancel hk]
      exact .child hc hd

theorem hasBodyAt_of_not_isBody {n : Node} (h : n.isBody = false) {k : Nat} :
    n.HasBodyAt k ↔ ∃ c ∈ n.children, n.levels ≤ k ∧ c.HasBodyAt (k - n.levels) := by
  rw [hasBodyAt_iff]
  refine or_iff_right ?_
  rintro ⟨-, b, hb, -⟩
  cases n with
  | block | case => cases h
  | _ => cases hb

theorem hasBodyAt_of_body? {n : Node} {b : List Stmt} (h : n.body? = some b) {k : Nat} :
    n.HasBodyAt k ↔ (k = 0 ∧ b ≠ []) ∨ ∃ c ∈ n.children, c.HasBodyAt k := by
  have levels : n.levels = 0 := by
    cases n with
    | block | case => rfl
    | _ => cases h
  rw [hasBodyAt_iff, h, levels]
  simp

theorem tooDeep?_block {limit : Nat} {s : Span} {b : List Stmt} :
    (block (.mk s b)).tooDeep? limit = none ↔ ∀ s ∈ b, (stmt s).tooDeep? limit = none := by
  rw [tooDeep?_eq_none]
  simp [levels, isLevel, children]

theorem tooDeep?_case {limit : Nat} {s : Span} {t : Option Expr} {b : List Stmt} :
    (case (.mk s t b)).tooDeep? limit = none ↔
      (∀ e ∈ t.toList, (expr e).tooDeep? limit = none) ∧ ∀ s ∈ b, (stmt s).tooDeep? limit = none := by
  rw [tooDeep?_eq_none]
  simp [levels, isLevel, children, or_imp, forall_and]

theorem hasBodyAt_block {k : Nat} {s : Span} {b : List Stmt} :
    (block (.mk s b)).HasBodyAt k ↔ (k = 0 ∧ b ≠ []) ∨ ∃ s ∈ b, (stmt s).HasBodyAt k := by
  rw [hasBodyAt_of_body? rfl]
  simp [children]

theorem hasBodyAt_case {k : Nat} {s : Span} {t : Option Expr} {b : List Stmt} :
    (case (.mk s t b)).HasBodyAt k ↔
      (k = 0 ∧ b ≠ []) ∨ (∃ e ∈ t.toList, (expr e).HasBodyAt k) ∨ ∃ s ∈ b, (stmt s).HasBodyAt k := by
  rw [hasBodyAt_of_body? rfl]
  simp [children, or_and_right, exists_or]

/-- What stands below `k` levels of a node is within a limit that is `k` less. -/
theorem Below.tooDeep? {k limit : Nat} {d n : Node} (h : Below k d n) (hn : n.tooDeep? limit = none) :
    k ≤ limit ∧ d.tooDeep? (limit - k) = none := by
  induction h generalizing limit with
  | refl => exact ⟨Nat.zero_le _, hn⟩
  | child hc _ ih =>
    obtain ⟨hl, hcs⟩ := tooDeep?_eq_none.1 hn
    obtain ⟨hk, hd⟩ := ih (hcs _ hc)
    rw [Nat.sub_sub, Nat.add_comm] at hd
    exact ⟨by omega, hd⟩

theorem HasBodyAt.lt {k limit : Nat} {n : Node} (h : n.HasBodyAt k) (hn : n.tooDeep? limit = none) : k < limit := by
  obtain ⟨d, b, hd, hb, hne⟩ := h
  obtain ⟨hk, hd⟩ := hd.tooDeep? hn
  obtain ⟨s, hs⟩ := List.exists_mem_of_ne_nil b hne
  have room : (stmt s).tooDeep? (limit - k) = none := by
    cases d with
    | block g =>
      obtain ⟨_, b'⟩ := g
      obtain rfl : b' = b := Option.some.inj hb
      exact tooDeep?_block.1 hd s hs
    | case g =>
      obtain ⟨_, _, b'⟩ := g
      obtain rfl : b' = b := Option.some.inj hb
      exact (tooDeep?_case.1 hd).2 s hs
    | _ => cases hb
  have := (tooDeep?_stmt.1 room).1
  omega

/-! ### Bodies with new statements -/

theorem levels_mapBodies (f : List Stmt → List Stmt) (n : Node) : (n.mapBodies f).levels = n.levels := by
  cases n with
  | expr e => cases e <;> rfl
  | _ => rfl

variable {f : List Stmt → List Stmt} {height : Nat}

/-- Whether a function puts statements of a height in front of the statements of a body, if there are any. -/
def AddsHeight (f : List Stmt → List Stmt) (height : Nat) : Prop :=
  ∀ b limit, (∀ s ∈ f b, (stmt s).tooDeep? limit = none) ↔
    (∀ s ∈ b, (stmt s).tooDeep? limit = none) ∧ (b ≠ [] → height ≤ limit)

/-- The nodes inside a body whose statements are changed, in terms of the nodes inside it before. -/
theorem forall_body_tooDeep? (h : AddsHeight f height) (limit : Nat) {b : List Stmt}
    (ih : ∀ s ∈ b, ((stmt s).mapBodies f).tooDeep? limit = none ↔
      (stmt s).tooDeep? limit = none ∧ ∀ k, (stmt s).HasBodyAt k → k + height ≤ limit) :
    (∀ s ∈ f (b.map (Stmt.mapBodies f)), (stmt s).tooDeep? limit = none) ↔
      (∀ s ∈ b, (stmt s).tooDeep? limit = none) ∧ (b ≠ [] → height ≤ limit) ∧
        ∀ s ∈ b, ∀ k, (stmt s).HasBodyAt k → k + height ≤ limit := by
  have statements : (∀ s ∈ b.map (Stmt.mapBodies f), (stmt s).tooDeep? limit = none) ↔
      (∀ s ∈ b, (stmt s).tooDeep? limit = none) ∧ ∀ s ∈ b, ∀ k, (stmt s).HasBodyAt k → k + height ≤ limit := by
    rw [List.forall_mem_map, ← forall₂_and]
    exact forall₂_congr ih
  rw [h, statements, ne_eq, List.map_eq_nil_iff]
  tauto

theorem forall_exists_mem_comm {α : Type} {xs : List α} {p : α → Nat → Prop} {q : Nat → Prop} :
    (∀ k, (∃ x ∈ xs, p x k) → q k) ↔ ∀ x ∈ xs, ∀ k, p x k → q k :=
  ⟨fun h x hx k hk => h k ⟨x, hx, hk⟩, fun h k ⟨x, hx, hk⟩ => h x hx k hk⟩

/-- Where `f` adds statements of a height, a node stays within a limit iff it was within it and the new
statements find room wherever they stand. -/
theorem mapBodies_tooDeep? (h : AddsHeight f height) {limit : Nat} {n : Node} :
    (n.mapBodies f).tooDeep? limit = none ↔
      n.tooDeep? limit = none ∧ ∀ k, n.HasBodyAt k → k + height ≤ limit := by
  induction n using induct generalizing limit with
  | step n ih =>
    -- only a block and a clause have a body of their own, any other node is as deep as its parts
    cases hb : n.isBody with
    | false =>
      rw [tooDeep?_eq_none, tooDeep?_eq_none, levels_mapBodies, children_mapBodies f hb, List.forall_mem_map]
      constructor
      · rintro ⟨hl, hc⟩
        refine ⟨⟨hl, fun c hcn => ((ih c hcn).1 (hc c hcn)).1⟩, fun k hk => ?_⟩
        obtain ⟨c, hcn, hle, hk⟩ := (hasBodyAt_of_not_isBody hb).1 hk
        have room := ((ih c hcn).1 (hc c hcn)).2 _ hk
        omega
      · rintro ⟨⟨hl, hc⟩, hk⟩
        refine ⟨hl, fun c hcn => (ih c hcn).2 ⟨hc c hcn, fun k hck => ?_⟩⟩
        have here : n.HasBodyAt (k + n.levels) :=
          (hasBodyAt_of_not_isBody hb).2 ⟨c, hcn, Nat.le_add_left .., by rwa [Nat.add_sub_cancel]⟩
        have room := hk _ here
        omega
    | true =>
      cases n with
      | block g =>
        obtain ⟨s, b⟩ := g
        have statements := forall_body_tooDeep? h limit fun s hs => ih (stmt s) (List.mem_map_of_mem hs)
        rw [mapBodies, Block.mapBodies, Stmt.mapBodiesList_eq, tooDeep?_block, statements, tooDeep?_block]
        simp only [hasBodyAt_block, or_imp, and_imp, forall_and, forall_eq, Nat.zero_add, forall_exists_mem_comm]
      | case g =>
        obtain ⟨s, t, b⟩ := g
        have test (e : Expr) (he : e ∈ t.toList) :
            ((expr e).mapBodies f).tooDeep? limit = none ↔
              (expr e).tooDeep? limit = none ∧ ∀ k, (expr e).HasBodyAt k → k + height ≤ limit :=
          ih (expr e) (List.mem_append_left _ (List.mem_map_of_mem he))
        have statements := forall_body_tooDeep? h limit fun s hs =>
          ih (stmt s) (List.mem_append_right _ (List.mem_map_of_mem hs))
        rw [mapBodies, Case.mapBodies, Stmt.mapBodiesList_eq, tooDeep?_case, statements, tooDeep?_case]
        have tests := forall₂_congr test
        simp only [mapBodies, forall₂_and] at tests
        simp only [hasBodyAt_case, Expr.mapBodiesOption_eq, Option.toList_map, List.forall_mem_map, or_imp, and_imp,
          forall_and, forall_eq, Nat.zero_add, forall_exists_mem_comm]
        rw [tests]
        tauto
      | _ => cases hb

end Node

namespace Script

theorem tooDeep?_eq_none {limit : Nat} {t : Script} :
    t.tooDeep? limit = none ↔ ∀ s ∈ t.body, (Node.stmt s).tooDeep? limit = none := by
  simp [tooDeep?, nodes]

/-- A statement of a sequential body of a script has `k` statements and expressions around it. -/
def HasBodyAt (t : Script) (k : Nat) : Prop := (k = 0 ∧ t.body ≠ []) ∨ ∃ s ∈ t.body, (Node.stmt s).HasBodyAt k

theorem HasBodyAt.lt {k limit : Nat} {t : Script} (h : t.HasBodyAt k) (ht : t.tooDeep? limit = none) : k < limit := by
  rw [tooDeep?_eq_none] at ht
  rcases h with ⟨rfl, hne⟩ | ⟨s, hs, hk⟩
  · obtain ⟨s, hs⟩ := List.exists_mem_of_ne_nil _ hne
    exact (Node.tooDeep?_stmt.1 (ht s hs)).1
  · exact hk.lt (ht s hs)

theorem mapBodies_tooDeep? {f : List Stmt → List Stmt} {height : Nat} (h : Node.AddsHeight f height) {limit : Nat}
    {t : Script} :
    (t.mapBodies f).tooDeep? limit = none ↔
      t.tooDeep? limit = none ∧ ∀ k, t.HasBodyAt k → k + height ≤ limit := by
  have statements := Node.forall_body_tooDeep? h limit fun s (_ : s ∈ t.body) => Node.mapBodies_tooDeep? h
  rw [tooDeep?_eq_none, mapBodies, Stmt.mapBodiesList_eq, statements, tooDeep?_eq_none]
  simp only [HasBodyAt, or_imp, and_imp, forall_and, forall_eq, Nat.zero_add, Node.forall_exists_mem_comm]

end Script

end ScriptCoverage.Source
