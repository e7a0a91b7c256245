import ScriptCoverage.Proofs.Coverage.Headroom

/-!
The limit for nesting. `Node.visits` lists all statements and expressions of a tree in visiting order, each with the
number of statements and expressions around it, itself included; the walk that measures a tree stops at the first one of
them that is too deep (`Node.tooDeep?_eq`). The walk over tokens and the walk over the tree refuse no less if the limit
is smaller. Main statement: `Source.Script.parseWithLimit_exact`.
-/

namespace ScriptCoverage

namespace Source

/-! ### Statements and expressions in visiting order -/

namespace Node

/-- The statements and expressions of a node in visiting order, each with the number of those around it, itself
included, if `around` of them are around the node. -/
def visits (around : Nat) (n : Node) : List (Nat × Node) :=
  (if n.isLevel then [(around + 1, n)] else []) ++
    n.children.attach.flatMap fun ⟨c, _⟩ => c.visits (around + n.levels)
  termination_by n.size
  decreasing_by exact size_children_lt ‹_›

theorem visits_eq (around : Nat) (n : Node) : n.visits around =
    (if n.isLevel then [(around + 1, n)] else []) ++ n.children.flatMap (visits (around + n.levels)) := by
  rw [visits]
  simp

/-- What is visited are the statements and expressions below a node, with the levels around them. -/
theorem mem_visits {around k : Nat} {d n : Node} :
    (k, d) ∈ n.visits around ↔ d.isLevel = true ∧ ∃ j, Below j d n ∧ k = around + j + 1 := by
  induction n using induct generalizing around with
  | step n ih =>
    rw [visits_eq, List.mem_append, List.mem_flatMap]
    constructor
    · rintro (here | ⟨c, hc, inside⟩)
      · split at here
        · next level =>
          obtain ⟨rfl, rfl⟩ := Prod.mk.inj (List.mem_singleton.1 here)
          exact ⟨level, 0, .refl d, rfl⟩
        · cases here
      · obtain ⟨level, j, below, rfl⟩ := (ih c hc).1 inside
        exact ⟨level, j + n.levels, .child hc below, by omega⟩
    · rintro ⟨level, j, below, rfl⟩
      cases below with
      | refl => exact .inl (by rw [if_pos level]; exact List.mem_singleton.2 rfl)
      | child hc below => exact .inr ⟨_, hc, (ih _ hc).2 ⟨level, _, below, by omega⟩⟩

theorem findSome?_congr {α β : Type} {f g : α → Option β} {xs : List α} (same : ∀ x ∈ xs, f x = g x) :
    xs.findSome? f = xs.findSome? g := by
  induction xs with
  | nil => rfl
  | cons x xs ih =>
    rw [List.findSome?_cons, List.findSome?_cons, same x List.mem_cons_self,
      ih fun y hy => same y (List.mem_cons_of_mem x hy)]

theorem tooDeep?_step (limit : Nat) (n : Node) : n.tooDeep? limit =
    if limit < n.levels then some n.start else n.children.findSome? (tooDeep? (limit - n.levels)) := by
  rw [tooDeep?.eq_def, levels]
  cases n.isLevel with
  | true => cases limit <;> simp
  | false => simp

/-- The walk that measures a node stops at the first visit that is too deep. -/
theorem tooDeep?_eq {limit around : Nat} (n : Node) (room : around ≤ limit) :
    n.tooDeep? (limit - around) = ((n.visits around).find? (limit < ·.1)).map (·.2.start) := by
  induction n using induct generalizing around with
  | step n ih =>
    have inside (room' : around + n.levels ≤ limit) :
        n.children.findSome? (tooDeep? (limit - around - n.levels)) =
          ((n.children.flatMap (visits (around + n.levels))).find? (limit < ·.1)).map (·.2.start) := by
      rw [List.find?_flatMap, List.map_findSome?, Nat.sub_sub]
      exact findSome?_congr fun c hc => ih c hc room'
    rw [tooDeep?_step, visits_eq]
    by_cases deep : limit - around < n.levels
    · have level : n.isLevel = true := by
        by_contra no
        rw [levels, if_neg no] at deep
        exact Nat.not_lt_zero _ deep
      have behind : limit < around + 1 := by
        rw [levels, if_pos level] at deep
        omega
      simp [deep, level, behind]
    · rw [if_neg deep, inside (by omega), List.find?_append]
      have fits : (if n.isLevel then [(around + 1, n)] else []).find? (limit < ·.1) = none := by
        rw [levels] at deep
        cases level : n.isLevel with
        | true =>
          rw [level, if_pos rfl] at deep
          have : ¬ limit < around + 1 := by omega
          simp [this]
        | false => rfl
      rw [fits, Option.none_or]

end Node

/-! ### Both walks -/

/-- Tokens that are within a limit are within a larger one. -/
theorem Nesting.tooDeep?_mono {limit limit' : Nat} (le : limit ≤ limit') {n : Nesting} {ls : List Lexeme}
    (fits : n.tooDeep? limit ls = none) : n.tooDeep? limit' ls = none := by
  induction ls generalizing n with
  | nil => rfl
  | cons l ls ih =>
    rw [tooDeep?] at fits ⊢
    split at fits
    · cases fits
    · next room => rw [if_neg (by omega), ih fits]

namespace Script

/-- The statements and expressions of a script in visiting order, each with the number of those around it, itself
included. -/
def visits (t : Script) : List (Nat × Node) := t.nodes.flatMap (Node.visits 0)

theorem tooDeep?_eq (limit : Nat) (t : Script) :
    t.tooDeep? limit = (t.visits.find? (limit < ·.1)).map (·.2.start) := by
  rw [tooDeep?, visits, List.find?_flatMap, List.map_findSome?]
  exact Node.findSome?_congr fun n _ => Node.tooDeep?_eq n (Nat.zero_le limit)

theorem tooDeep?_eq_none_iff {limit : Nat} {t : Script} : t.tooDeep? limit = none ↔ ∀ v ∈ t.visits, v.1 ≤ limit := by
  simp [tooDeep?_eq]

/-- What is visited in a script are its statements and expressions. -/
theorem mem_visits {k : Nat} {d : Node} {t : Script} :
    (k, d) ∈ t.visits ↔ d.isLevel = true ∧ ∃ s ∈ t.body, ∃ j, Node.Below j d (.stmt s) ∧ k = j + 1 := by
  simp only [visits, nodes, List.mem_flatMap, List.mem_map, exists_exists_and_eq_and, Node.mem_visits, Nat.zero_add]
  constructor
  · rintro ⟨s, hs, level, below⟩
    exact ⟨level, s, hs, below⟩
  · rintro ⟨level, s, hs, below⟩
    exact ⟨s, hs, level, below⟩

/-- What reading a text with a limit comes to. -/
theorem parseWithLimit_eq (source : String) (limit : Nat) :
    (∃ offset, parseWithLimit source limit = .error (.tooDeep limit offset) ∧ ¬ TokensFit limit source) ∨
    TokensFit limit source ∧ parseWithLimit source limit =
      match readText source with
      | .error f => .error (.ofFailure f)
      | .ok t =>
        match t.visits.find? (limit < ·.1) with
        | some v => .error (.tooDeep limit v.2.start)
        | none => .ok t := by
  rw [parseWithLimit, TokensFit, readText]
  dsimp only
  cases Nesting.tooDeep? limit {} (Lexeme.all (Cursor.ofString source).afterInterpreterLine.1) with
  | some offset => exact .inl ⟨offset, rfl, Option.some_ne_none offset⟩
  | none =>
    refine .inr ⟨rfl, ?_⟩
    cases read (Cursor.ofString source).afterInterpreterLine.1 (Cursor.ofString source).afterInterpreterLine.2 with
    | error f => rfl
    | ok t =>
      dsimp only
      rw [tooDeep?_eq]
      cases t.visits.find? (limit < ·.1) <;> rfl

/-- The limit for nesting is exact, and a smaller one refuses no less. What is read within a limit has no statement or
expression with more of them around it, itself included, and is read within a larger limit as the same tree. What is
read within the larger limit is read within the smaller one as the same tree or is nested too deeply for it. The walk
over the tree fails iff a statement or an expression is too deep, and names the start of the first one in visiting
order. So a module that can be instrumented is read with the usual limit as the tree that is instrumented. -/
theorem parseWithLimit_exact (source : String) {limit limit' : Nat} (le : limit ≤ limit') (t : Script) :
    (parseWithLimit source limit = .ok t →
      (∀ s ∈ t.body, ∀ k d, Node.Below k d (.stmt s) → d.isLevel = true → k + 1 ≤ limit) ∧
      parseWithLimit source limit' = .ok t) ∧
    (parseWithLimit source limit' = .ok t → parseWithLimit source limit = .ok t ∨
      ∃ offset, parseWithLimit source limit = .error (.tooDeep limit offset)) ∧
    (∀ k d, (k, d) ∈ t.visits ↔ d.isLevel = true ∧ ∃ s ∈ t.body, ∃ j, Node.Below j d (.stmt s) ∧ k = j + 1) ∧
    t.tooDeep? limit = (t.visits.find? (limit < ·.1)).map (·.2.start) ∧
    (TokensFit limit source → readText source = .ok t → parseWithLimit source limit =
      match t.visits.find? (limit < ·.1) with
      | some v => .error (.tooDeep limit v.2.start)
      | none => .ok t) ∧
    (∀ component key f r, Record.ofFactory component key f = .ok r → ∃ t, r.tree = some t ∧ parse f.source = .ok t) := by
  -- what passes the walk with a limit passes it with every larger one, for the tokens and for the tree
  have larger {source : String} {limit limit' : Nat} {t : Script} (le : limit ≤ limit')
      (read : parseWithLimit source limit = .ok t) : parseWithLimit source limit' = .ok t := by
    obtain ⟨tokens, text, fits⟩ := parseWithLimit_eq_ok.1 read
    refine parseWithLimit_eq_ok.2 ⟨Nesting.tooDeep?_mono le tokens, text, ?_⟩
    exact tooDeep?_eq_none_iff.2 fun v hv => Nat.le_trans (tooDeep?_eq_none_iff.1 fits v hv) le
  refine ⟨fun read => ⟨fun s hs k d below level => ?_, larger le read⟩, fun read => ?_, fun k d => mem_visits,
    tooDeep?_eq limit t, fun tokens text => ?_, fun component key f r collected => ?_⟩
  · obtain ⟨-, -, fits⟩ := parseWithLimit_eq_ok.1 read
    exact tooDeep?_eq_none_iff.1 fits (k + 1, d) (mem_visits.2 ⟨level, s, hs, k, below, rfl⟩)
  · obtain ⟨-, text, -⟩ := parseWithLimit_eq_ok.1 read
    rcases parseWithLimit_eq source limit with ⟨offset, refused, -⟩ | ⟨-, result⟩
    · exact .inr ⟨offset, refused⟩
    · rw [text] at result
      dsimp only at result
      split at result
      · exact .inr ⟨_, result⟩
      · exact .inl result
  · rcases parseWithLimit_eq source limit with ⟨-, -, no⟩ | ⟨-, result⟩
    · exact absurd tokens no
    · rwa [text] at result
  · rw [Record.ofFactory] at collected
    split at collected
    · next t read =>
      refine ⟨t, ?_, larger (by decide) read⟩
      rw [← Except.ok.inj collected]
      rfl
    · cases collected

/-- Whether a script is a branch with a name as its test and a name behind it that starts at an offset. -/
def IsBranch (offset : Nat) : Script → Bool
  | ⟨_, _, [.branch _ (.name _) (.expression _ (.name n)) none]⟩ => n.span.start == offset
  | _ => false

theorem IsBranch.find? {offset : Nat} {t : Script} (h : IsBranch offset t = true) :
    (t.visits.find? (3 < ·.1)).isNone ∧ (t.visits.find? (2 < ·.1)).map (·.2.start) = some offset := by
  unfold IsBranch at h
  split at h
  · simpa [visits, nodes, Node.visits_eq, Node.isLevel, Node.levels, Node.children, Node.ofStmt, Node.ofExpr,
      Node.start, Expr.span] using h
  · cases h

/-- The script `if(a)b;` is three levels deep. Where one less is allowed, it is refused for the name at its end. -/
theorem parseWithLimit_exact_branch : ∃ t, parseWithLimit "if(a)b;" 3 = .ok t ∧
    parseWithLimit "if(a)b;" 2 = .error (.tooDeep 2 5) ∧
    (∀ s ∈ t.body, ∀ k d, Node.Below k d (.stmt s) → d.isLevel = true → k + 1 ≤ 3) ∧
    parseWithLimit "if(a)b;" maxNesting = .ok t := by
  have tokens : TokensFit 3 "if(a)b;" ∧ TokensFit 2 "if(a)b;" := by decide +kernel
  have shape : (readText "if(a)b;").toOption.any (IsBranch 5) = true := by decide +kernel
  cases text : readText "if(a)b;" with
  | error e =>
    rw [text] at shape
    cases shape
  | ok t =>
    rw [text] at shape
    obtain ⟨fits, deep⟩ := IsBranch.find? shape
    obtain ⟨within, -, -, -, onThree, -⟩ := parseWithLimit_exact "if(a)b;" (show 3 ≤ maxNesting by decide) t
    obtain ⟨-, -, -, -, onTwo, -⟩ := parseWithLimit_exact "if(a)b;" (show 2 ≤ 3 by decide) t
    have three := onThree tokens.1 text
    have two := onTwo tokens.2 text
    rw [Option.isNone_iff_eq_none.1 fits] at three
    refine ⟨t, three, ?_, within three⟩
    obtain ⟨v, found, start⟩ := Option.map_eq_some_iff.1 deep
    rw [two, found, ← start]

end Script

end Source

end ScriptCoverage
