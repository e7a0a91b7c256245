import ScriptCoverage.Proofs.Source.Operands

/-!
How a call of a name with literals is read. A name may also start an arrow function, and `async` with arguments may be
the parameters of one, so the grammar takes that word another way to the same expression. Main statements:
`Runs.arguments` — literals with commas between them are read as arguments — and `Runs.assignment_call`.
-/

namespace ScriptCoverage.Source

@[simp] theorem Grammar.bound_ofBound (n : Nat) : (Grammar.ofBound n).bound = n := by
  cases n <;> rfl

namespace Parser

namespace Runs

variable {ctx : Context} {l l' : Lexeme} {ls : List Lexeme} {looked : Bool} {prev : Span} {arrowAt : Option Nat}
  {e : Expr} {v v' : View}

/-- A reader that has looked at the next lexeme may be taken for one that has not. -/
theorem forget {α : Type} {p : Parser α} {a : α} {ahead : List Lexeme}
    (h : Runs ctx p v a ⟨ahead, true, prev, arrowAt⟩) : Runs ctx p v a ⟨ahead, false, prev, arrowAt⟩ := by
  intro r shows
  obtain ⟨r', run, shows⟩ := h r shows
  exact ⟨r', run, shows.quiet, shows.prev, shows.arrowAt, nofun, shows.ahead⟩

/-! ### Arguments -/

theorem literal?_spec (lit : literal? l = some e) :
    (∀ p, isPunct p (some l) = false) ∧ startsArrow l.token = false ∧ e.isArrow = false ∧
      ∀ (ctx : Context) (v : View), Runs ctx (refuseDefaults e) v () v := by
  obtain ⟨t, s, n, c⟩ := l
  cases t with
  | number | string =>
    cases lit
    exact ⟨fun _ => rfl, rfl, rfl, fun _ _ => pure ()⟩
  | _ => cases lit

theorem argument_literal (n : Nat) (lit : literal? l = some e) (ends : endsExpression l'.token = true) :
    Runs ctx (argument (Grammar.ofBound (n + 3))) ⟨l :: l' :: ls, looked, prev, arrowAt⟩ e
      ⟨l' :: ls, true, l.span, none⟩ := by
  obtain ⟨noPunct, noArrow, plain, -⟩ := literal?_spec lit
  have starts := StartsOperand.of_literal lit
  have operand : Runs { ctx with allowIn := true } (Grammar.ofBound (n + 2)).unary
      ⟨l :: l' :: ls, true, prev, arrowStart l⟩ e ⟨l' :: ls, true, l.span, none⟩ := by
    have room : (Grammar.ofBound (n + 1)).bound = n + 1 := Grammar.bound_ofBound _
    refine unary starts ends (leftHandSide starts room (primary_literal lit) plain
      (links_of_no (startsNoLink_of_ends false ends) room) plain ?_)
    rw [room, arrowStart, noArrow]
    exact linksBehind_of_no (startsNoLink_of_ends true ends) n
  refine withReader rfl (pos.bind (ifNot (eat_of_not (noPunct _)) ?_))
  exact assignment starts ends (Grammar.bound_ofBound _) operand

/-- Literals with commas between them, and the expressions that they are. -/
inductive Items : List Lexeme → List Expr → Prop
  | one {l : Lexeme} {e : Expr} (lit : literal? l = some e) : Items [l] [e]
  | more {l : Lexeme} {e : Expr} {ls : List Lexeme} {es : List Expr} (lit : literal? l = some e) (s : Span)
      (newline : Bool) (c : Cursor) (behind : Items ls es) : Items (l :: ⟨.punct .comma, s, newline, c⟩ :: ls) (e :: es)

/-- A closing parenthesis. -/
def closing (s : Span) (newline : Bool) (c : Cursor) : Lexeme := ⟨.punct (.closing .round), s, newline, c⟩

variable {n : Nat} {items : List Lexeme} {es : List Expr} {s : Span} {newline : Bool} {c : Cursor}

theorem Items.exists_head (h : Items items es) : ∃ l e rest, items = l :: rest ∧ literal? l = some e := by
  cases h with
  | one lit => exact ⟨_, _, _, rfl, lit⟩
  | more lit => exact ⟨_, _, _, rfl, lit⟩

theorem argumentsBehind (h : Items items es) (start : Nat) {k : Nat} (room : es.length ≤ k) (found : List Expr) :
    ∃ prev', Runs ctx (do
      let e ← argument (Grammar.ofBound (n + 3))
      Parser.argumentsBehind (Grammar.ofBound (n + 3)) start false k (e :: found))
      ⟨items ++ closing s newline c :: ls, looked, prev, arrowAt⟩ (found.reverse ++ es)
      ⟨closing s newline c :: ls, true, prev', none⟩ := by
  induction h generalizing looked prev arrowAt k found with
  | @one l e lit =>
    obtain ⟨k, rfl⟩ : ∃ i, k = i + 1 := Nat.exists_eq_succ_of_ne_zero (by simp at room; omega)
    refine ⟨l.span, (argument_literal n lit rfl).bind (atEnd.bind ((atPunct _).bind ?_))⟩
    have last : found.reverse ++ [e] = (e :: found).reverse := by simp
    rw [last]
    exact pure _
  | @more l e items es lit s' newline' c' behind ih =>
    obtain ⟨k, rfl⟩ : ∃ i, k = i + 1 := Nat.exists_eq_succ_of_ne_zero (by simp at room; omega)
    obtain ⟨prev', run⟩ := @ih true s' none k (Nat.le_of_succ_le_succ room) (e :: found)
    obtain ⟨l₁, e₁, rest, split, lit₁⟩ := behind.exists_head
    have goesOn : isPunct (.closing .round) ((items ++ closing s newline c :: ls).head?) = false := by
      rw [split]
      exact (literal?_spec lit₁).1 _
    have whole : found.reverse ++ e :: es = (e :: found).reverse ++ es := by simp
    refine ⟨prev', (argument_literal n lit rfl).bind (atEnd.bind ((atPunct _).bind ?_))⟩
    rw [whole]
    exact (expect rfl).bind (ifNot (atPunct_of_not goesOn) run)

/-- An opening parenthesis. -/
def opening (s : Span) (newline : Bool) (c : Cursor) : Lexeme := ⟨.punct (.opening .round), s, newline, c⟩

variable {s' s₁ : Span} {newline' newline₁ : Bool} {c' c₁ : Cursor}

/-- Literals in parentheses are the arguments of a call. -/
theorem arguments (h : Items items es) (room : es.length ≤ n + 2) :
    Runs ctx (arguments (Grammar.ofBound (n + 3)) false)
      ⟨opening s' newline' c' :: (items ++ closing s newline c :: ls), looked, prev, arrowAt⟩ es
      ⟨ls, false, s, none⟩ := by
  obtain ⟨prev', run⟩ := @argumentsBehind ctx ls true s' arrowAt n items es s newline c h s'.start _ room []
  obtain ⟨l, e, rest, split, lit⟩ := h.exists_head
  have goesOn : isPunct (.closing .round) ((items ++ closing s newline c :: ls).head?) = false := by
    rw [split]
    exact (literal?_spec lit).1 _
  have some : (items ++ closing s newline c :: ls).head?.isNone = false := by
    rw [split]
    rfl
  have inside : Runs ctx (Parser.argumentsBehind (Grammar.ofBound (n + 3)) s'.start false (n + 3) [])
      ⟨items ++ closing s newline c :: ls, false, s', arrowAt⟩ es ⟨closing s newline c :: ls, true, prev', none⟩ := by
    unfold Parser.argumentsBehind
    refine atEnd.bind ((atPunct_of_not goesOn).bind ?_)
    rw [some]
    exact run
  unfold Parser.arguments
  refine pos.bind ((expect rfl).bind ?_)
  rw [Grammar.bound_ofBound]
  exact inside.bind ((expect rfl).bind (pure es))

/-- A call whose arguments are literals. -/
theorem linksBehind_call (h : Items items es) (room : es.length ≤ n + 2) {l : Lexeme}
    (ends : endsExpression l.token = true) (k : Nat) :
    Runs ctx (Parser.linksBehind (Grammar.ofBound (n + 3)) true (k + 2) e)
      ⟨opening s' newline' c' :: (items ++ closing s newline c :: l :: ls), looked, prev, arrowAt⟩
      (.call ⟨e.span.start, s.stop⟩ false e es) ⟨l :: ls, true, s, none⟩ := by
  have call : Runs ctx (callOf (Grammar.ofBound (n + 3)) (.value e) false)
      ⟨opening s' newline' c' :: (items ++ closing s newline c :: l :: ls), true, prev, arrowAt⟩
      (.call ⟨e.span.start, s.stop⟩ false e es) ⟨l :: ls, false, s, none⟩ :=
    (arguments h room).bind ((spanFrom _).bind (pure _))
  have link : Runs ctx (link? (Grammar.ofBound (n + 3)) true (.value e))
      ⟨opening s' newline' c' :: (items ++ closing s newline c :: l :: ls), looked, prev, arrowAt⟩
      (some (.call ⟨e.span.start, s.stop⟩ false e es)) ⟨l :: ls, false, s, none⟩ := by
    unfold link?
    refine (eatOptional_of_not rfl).bind (ifNot (atPunct_of_not rfl) ?_)
    exact ifSo (atPunct _) (call.bind (pure _))
  exact link.bind (linksBehind_of_no (startsNoLink_of_ends true ends) k)

theorem Items.refuseDefaults (h : Items items es) : Runs ctx (es.forM refuseDefaults) v () v := by
  induction h with
  | one lit => exact ((literal?_spec lit).2.2.2 ctx v).bind (pure ())
  | more lit _ _ _ _ ih => exact ((literal?_spec lit).2.2.2 ctx v).bind ih

/-- Literals in parentheses are the items between them. -/
theorem parenItems (h : Items items es) {k : Nat} (room : es.length ≤ k) (found : List Expr) :
    ∃ prev', Runs ctx (Parser.parenItems (Grammar.ofBound (n + 3)) (k + 1) found none)
      ⟨items ++ closing s newline c :: ls, looked, prev, arrowAt⟩ (found.reverse ++ es, none)
      ⟨closing s newline c :: ls, true, prev', none⟩ := by
  induction h generalizing looked prev arrowAt k found with
  | @one l e lit =>
    obtain ⟨k, rfl⟩ : ∃ i, k = i + 1 := Nat.exists_eq_succ_of_ne_zero (by simp at room; omega)
    refine ⟨l.span, ?_⟩
    unfold Parser.parenItems
    refine atEnd.bind ((atPunct_of_not ((literal?_spec lit).1 _)).bind ?_)
    refine pos.bind ((argument_literal n lit rfl).bind (ifNot (eat_of_not rfl) ((pure _).bind (ifSo (atPunct _) ?_))))
    have last : found.reverse ++ [e] = (e :: found).reverse := by simp
    unfold Parser.parenItems
    refine atEnd.bind ((atPunct _).bind ?_)
    rw [last]
    exact pure _
  | @more l e items es lit s' newline' c' behind ih =>
    obtain ⟨k, rfl⟩ : ∃ i, k = i + 1 := Nat.exists_eq_succ_of_ne_zero (by simp at room; omega)
    obtain ⟨prev', run⟩ := @ih true s' none k (Nat.le_of_succ_le_succ room) (e :: found)
    obtain ⟨l₁, e₁, rest, split, lit₁⟩ := behind.exists_head
    have goesOn : isPunct (.closing .round) ((items ++ closing s newline c :: ls).head?) = false := by
      rw [split]
      exact (literal?_spec lit₁).1 _
    have whole : found.reverse ++ e :: es = (e :: found).reverse ++ es := by simp
    refine ⟨prev', ?_⟩
    unfold Parser.parenItems
    refine atEnd.bind ((atPunct_of_not ((literal?_spec lit).1 _)).bind ?_)
    refine pos.bind ((argument_literal n lit rfl).bind (ifNot (eat_of_not rfl) ((pure _).bind ?_)))
    refine ifNot (atPunct_of_not rfl) ?_
    refine (expect rfl).bind (get_bind fun r _ _ => (atPunct_of_not goesOn).bind ?_)
    rw [whole]
    exact run

/-! ### Names -/

section Names

variable {w : String} (valid : Identifier.fault? w = none)

/-- The lexeme of a name. -/
def nameLexeme (w : String) (s : Span) (newline : Bool) (c : Cursor) : Lexeme := ⟨.word w false, s, newline, c⟩

include valid

theorem name (outside : ctx.inField = false) (yieldAllowed awaitAllowed : Bool) :
    Runs ctx (Parser.name yieldAllowed awaitAllowed) ⟨nameLexeme w s newline c :: ls, looked, prev, arrowAt⟩ ⟨w, s⟩
      ⟨ls, false, s, arrowAt⟩ := by
  have other (v : String) (reserved : v ∈ Identifier.reservedWords) : (w == v) = false :=
    beq_false_of_ne (ne_of_not_reserved valid reserved)
  unfold Parser.name
  refine (require rfl).bind ?_
  dsimp only [nameLexeme]
  refine advance.bind (get_bind fun r hprev _ => read.bind ?_)
  rw [hprev, outside, other "enum" (by decide), other "await" (by decide), other "yield" (by decide),
    isKeyword_eq_false valid,
    Bool.and_false]
  exact pure _

variable {g : Grammar} (noArrow : isPunct .arrow (some l) = false) (noName : namesVariable ctx.toMode (some l) = false)

include noArrow noName

theorem named (outside : ctx.inField = false) (start : Nat) (arrowHere : Bool) :
    Runs ctx (named g start arrowHere) ⟨nameLexeme w s newline c :: l :: ls, looked, prev, arrowAt⟩ (.name ⟨w, s⟩)
      ⟨l :: ls, false, s, arrowAt⟩ := by
  have isName : namesVariable ctx.toMode (some (nameLexeme w s newline c)) = true := by
    change (false || !isReserved ctx.toMode w) = true
    rw [isReserved_eq_false valid]
    rfl
  have notLet : isWord "let" (some (nameLexeme w s newline c)) = false :=
    beq_false_of_ne (ne_of_not_reserved valid (by decide))
  unfold Parser.named
  refine read.bind ((atWord_of_not notLet).bind (atVariable.bind ?_))
  change Runs ctx
    (if (!(false || namesVariable ctx.toMode (some (nameLexeme w s newline c)))) = true then _ else _) _ _ _
  rw [isName]
  refine (name valid outside _ _).bind ?_
  cases arrowHere with
  | false => exact pure _
  | true =>
    refine forget (newlineBefore.bind (atVariable.bind ?_))
    change Runs ctx (if (w == "async" && !l.newline && namesVariable ctx.toMode (some l)) = true then _ else _) _ _ _
    rw [noName, Bool.and_false]
    refine newlineBefore.bind ((atPunct_of_not noArrow).bind ?_)
    rw [Bool.not_false, Bool.or_true]
    exact pure _

omit noArrow noName in
theorem startsArrow_name : startsArrow (.word w false) = true := by
  unfold startsArrow
  split
  · next h => cases h
  · next h => exact absurd (Token.word.inj h).1 (ne_of_not_reserved valid (by decide))
  · next h => exact absurd (Token.word.inj h).1 (ne_of_not_reserved valid (by decide))
  · next h =>
    cases h
    rw [mayBeName, isKeyword_eq_false valid]
    simp
  · next h => exact absurd rfl (h w false)

theorem primary_name (outside : ctx.inField = false) (notAsync : w ≠ "async") :
    Runs ctx (primary g) ⟨nameLexeme w s newline c :: l :: ls, looked, prev, arrowAt⟩ (.name ⟨w, s⟩)
      ⟨l :: ls, false, s, arrowAt⟩ := by
  unfold primary
  refine look.bind (get_bind fun r _ _ => ?_)
  have other (v : String) (reserved : v ∈ Identifier.reservedWords) := ne_of_not_reserved valid reserved
  dsimp only [List.head?_cons, nameLexeme]
  split
  all_goals first
    | exact named valid noArrow noName outside _ _
    | next h => cases h; done
    | next h => exact absurd (Token.word.inj h).1 (other _ (by decide))
    | next h => exact absurd (Token.word.inj h).1 notAsync
    | next h => exact absurd rfl (h w false)

end Names

/-- A word that may start an async function is a name, too, but a call of it is read as one whole. -/
theorem primary_async (h : Items items es) (room : es.length ≤ n + 2) (noArrow : isPunct .arrow (some l) = false) :
    Runs ctx (primary (Grammar.ofBound (n + 3)))
      ⟨nameLexeme "async" s newline c :: opening s' false c' :: (items ++ closing s₁ newline₁ c₁ :: l :: ls), looked,
        prev, some s.start⟩
      (.call ⟨s.start, s₁.stop⟩ false (.name ⟨"async", s⟩) es) ⟨l :: ls, true, s₁, none⟩ := by
  obtain ⟨prev', inside⟩ :=
    @parenItems ctx (l :: ls) false s' (some s.start) n items es s₁ newline₁ c₁ h (n + 2) room []
  have call : Runs ctx (parenthesised (Grammar.ofBound (n + 3)) s.start true (some ⟨"async", s⟩))
      ⟨opening s' false c' :: (items ++ closing s₁ newline₁ c₁ :: l :: ls), false, s, some s.start⟩
      (.call ⟨s.start, s₁.stop⟩ false (.name ⟨"async", s⟩) es) ⟨l :: ls, true, s₁, none⟩ := by
    unfold parenthesised
    refine (expect rfl).bind ?_
    rw [Grammar.bound_ofBound]
    refine inside.bind ((expect rfl).bind (ifNot (atPunct_of_not noArrow) ?_))
    exact h.refuseDefaults.bind ((spanFrom _).bind (pure _))
  have here : (some s.start == some s.start) = true := beq_self_eq_true _
  unfold primary
  refine look.bind (get_bind fun r _ arrowHere => ?_)
  dsimp only [List.head?_cons, nameLexeme]
  rw [arrowHere]
  dsimp only [View.look]
  rw [here]
  refine (peek rfl).bind ?_
  refine advance.bind (get_bind fun r prev _ => ?_)
  rw [prev]
  exact call

/-! ### Calls -/

/-- A call of a name with literals. -/
theorem assignment_call {w : String} (valid : Identifier.fault? w = none) (outside : ctx.inField = false)
    (h : Items items es) (room : es.length ≤ n + 2) (ends : endsExpression l.token = true) :
    Runs ctx (Grammar.ofBound (n + 5)).assignment
      ⟨nameLexeme w s newline c :: opening s' false c' :: (items ++ closing s₁ newline₁ c₁ :: l :: ls), looked, prev,
        arrowAt⟩
      (.call ⟨s.start, s₁.stop⟩ false (.name ⟨w, s⟩) es) ⟨l :: ls, true, s₁, none⟩ := by
  have starts : StartsOperand (nameLexeme w s newline c) := .of_name valid s newline c
  have bound (k : Nat) : (Grammar.ofBound k).bound = k := Grammar.bound_ofBound k
  have noLink : StartsNoLink false (opening s' false c') := by
    refine ⟨fun p hp => ?_, nofun⟩
    simp only [List.mem_cons, List.not_mem_nil, or_false] at hp
    rcases hp with rfl | rfl | rfl | rfl <;> rfl
  have arrowHere : arrowStart (nameLexeme w s newline c) = some s.start := if_pos (startsArrow_name valid)
  have operand : Runs ctx (Parser.leftHandSide (Grammar.ofBound (n + 3)))
      ⟨nameLexeme w s newline c :: opening s' false c' :: (items ++ closing s₁ newline₁ c₁ :: l :: ls), true, prev,
        some s.start⟩
      (.call ⟨s.start, s₁.stop⟩ false (.name ⟨w, s⟩) es) ⟨l :: ls, true, s₁, none⟩ := by
    by_cases async : w = "async"
    · subst async
      exact leftHandSide starts (bound _) (primary_async h room (isPunct_of_ends ends rfl)) rfl
        (links_of_no (startsNoLink_of_ends false ends) (bound _)) rfl
        (by rw [bound]; exact linksBehind_of_no (startsNoLink_of_ends true ends) _)
    · refine leftHandSide starts (bound _) (primary_name valid rfl rfl outside async) rfl
        (links_of_no noLink (bound _)) rfl ?_
      rw [bound]
      exact linksBehind_call h room ends _
  refine assignment starts ends (bound _) ?_
  rw [arrowHere]
  exact unary starts ends operand

end Runs

end Parser

end ScriptCoverage.Source
