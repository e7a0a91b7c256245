import ScriptCoverage.Proofs.Source.Numbers
import ScriptCoverage.Proofs.Source.Statements

/-!
How a chain of accesses by names is read. A point and a name behind an expression make a link, and the links are read
until none is left. Main statements: `LexesAs.accesses` — the tokens of a chain — and `Runs.exists_statement_accesses`
— a literal with a chain behind it and a semicolon is a statement.
-/

namespace ScriptCoverage.Source

/-- Whether an expression consists of accesses to another one by names, the first name innermost; the ranges may be
any. -/
inductive Expr.Accesses : Expr → List String → Expr → Prop
  | none (e : Expr) : Accesses e [] e
  | member {e e' : Expr} {w : String} {ws : List String} (s t : Span)
      (behind : Accesses (.member s false e (.name ⟨w, t⟩)) ws e') : Accesses e (w :: ws) e'

/-- What has accesses behind an access is an access. -/
theorem Expr.Accesses.exists_member {e e' : Expr} {ws : List String} (h : Accesses e ws e') :
    (∃ s o k, e = .member s false o k) → ∃ s o k, e' = .member s false o k := by
  induction h with
  | none => exact id
  | member _ _ _ ih => exact fun _ => ih ⟨_, _, _, rfl⟩

/-- The text of accesses by names. -/
def accessText (ws : List String) : List Char := ws.flatMap fun w => '.' :: w.toList

/-- The tokens of accesses by names. -/
def accessTokens (ws : List String) : List Token := ws.flatMap fun w => [.punct .dot, .word w false]

theorem length_accessTokens (ws : List String) : (accessTokens ws).length = 2 * ws.length := by
  induction ws with
  | nil => rfl
  | cons w ws ih =>
    change (accessTokens ws).length + 2 = _
    rw [ih, List.length_cons]
    rfl

/-! ### Tokens -/

section Tokens

variable {m : Mode} {rest : List Char} {ts : List Token} {w : String} {ws : List String}

/-- A point that no other one follows stands for itself. -/
theorem punctuator?_dot {x : Char} (h : x ≠ '.') (cs : List Char) : punctuator? ('.' :: x :: cs) = some (.dot, 1) := by
  unfold punctuator?
  split
  -- the row of the point alone, that of three points with those of other characters, and no row at all
  all_goals first
    | rfl
    | next same => cases same <;> exact absurd rfl h
    | exact absurd rfl (‹∀ rest, '.' :: x :: cs = '.' :: rest → False› _)

theorem LexesAs.access (behind : LexesAs m rest ts) (k : Nat) (valid : Identifier.fault? w = none)
    (stop : rest.head?.any (fun y => y == '\\' || isNamePart y) = false) :
    LexesAs m (List.replicate k ' ' ++ '.' :: (w.toList ++ rest)) (.punct .dot :: .word w false :: ts) := by
  have name := behind.name 0 valid stop
  rw [List.replicate_zero, List.nil_append] at name
  obtain ⟨x, xs, text, start, -⟩ := exists_cons_of_fault?_eq_none valid
  have noDigit : x.isDigit = false := by
    refine Bool.eq_false_iff.2 fun digit => ?_
    have noName := Lexer.isNameStart_of_isDigit digit
    rw [isNameStart, start] at noName
    cases noName
  have noPoint : x ≠ '.' := by
    rintro rfl
    cases start
  refine LexesAs.punct name k rfl ?_ rfl ?_ rfl
  · rw [text, List.cons_append]
    exact punctuator?_dot noPoint _
  · rw [text, List.cons_append, List.head?_cons, Option.any_some, noDigit]
    rfl

theorem LexesAs.accesses (behind : LexesAs m rest ts) (valid : ∀ w ∈ ws, Identifier.fault? w = none)
    (stop : rest.head?.any (fun y => y == '\\' || isNamePart y) = false) :
    LexesAs m (accessText ws ++ rest) (accessTokens ws ++ ts) ∧
      (accessText ws ++ rest).head?.any (fun y => y == '\\' || isNamePart y) = false := by
  induction ws with
  | nil => exact ⟨behind, stop⟩
  | cons w ws ih =>
    obtain ⟨valid, others⟩ := List.forall_mem_cons.1 valid
    obtain ⟨further, stop⟩ := ih others
    refine ⟨?_, rfl⟩
    have first := further.access 0 valid stop
    simpa [accessText, accessTokens] using first

end Tokens

/-! ### Reading -/

namespace Parser

namespace Runs

variable {g : Grammar} {ctx : Context} {ls : List Lexeme} {looked : Bool} {prev : Span} {arrowAt : Option Nat}
  {e : Expr}

/-- One access by a name. -/
theorem link?_access (calls : Bool) (s s' : Span) (n n' : Bool) (c c' : Cursor) (w : String) :
    Runs ctx (link? g calls (.value e))
      ⟨⟨.punct .dot, s, n, c⟩ :: ⟨.word w false, s', n', c'⟩ :: ls, looked, prev, arrowAt⟩
      (some (.member ⟨e.span.start, s'.stop⟩ false e (.name ⟨w, s'⟩))) ⟨ls, false, s', arrowAt⟩ := by
  have name : Runs ctx memberName ⟨⟨.word w false, s', n', c'⟩ :: ls, false, s, arrowAt⟩ (.name ⟨w, s'⟩)
      ⟨ls, false, s', arrowAt⟩ :=
    ifNot (atPunct_of_not rfl) (((require rfl).bind (advance.bind (pure (⟨w, s'⟩ : Name)))).bind (pure _))
  have accessed : Runs ctx (access (.value e) calls false (.name ⟨w, s'⟩)) ⟨ls, false, s', arrowAt⟩
      (.member ⟨e.span.start, s'.stop⟩ false e (.name ⟨w, s'⟩)) ⟨ls, false, s', arrowAt⟩ :=
    (spanFrom _).bind (pure _)
  have member : Runs ctx (do
      if ← Parser.eat .dot then
        let k ← memberName
        return some (← access (.value e) calls false k)
      else if ← Parser.atPunct .backquote then return some (← taggedTemplate g e) else return none)
      ⟨⟨.punct .dot, s, n, c⟩ :: ⟨.word w false, s', n', c'⟩ :: ls, true, prev, arrowAt⟩
      (some (.member ⟨e.span.start, s'.stop⟩ false e (.name ⟨w, s'⟩))) ⟨ls, false, s', arrowAt⟩ :=
    ifSo (eat rfl) (name.bind (accessed.bind (pure _)))
  unfold link?
  refine (eatOptional_of_not rfl).bind (ifNot (atPunct_of_not rfl) ?_)
  cases calls with
  | false => exact ifNot (pure false) member
  | true => exact ifNot (atPunct_of_not rfl) member

theorem linksBehind_accesses {ws : List String} {k : Nat} (calls : Bool)
    (tokens : ls.map Lexeme.token = accessTokens ws ++ [.punct .semicolon]) (room : ws.length < k) :
    ∃ e' s n c prev', Expr.Accesses e ws e' ∧
      Runs ctx (linksBehind g calls k e) ⟨ls, looked, prev, arrowAt⟩ e' ⟨[semicolon s n c], true, prev', arrowAt⟩ := by
  induction ws generalizing ls e k looked prev with
  | nil =>
    obtain ⟨⟨_, s, n, c⟩, rfl, rfl⟩ := List.map_eq_singleton_iff.1 tokens
    obtain ⟨k, rfl⟩ := Nat.exists_eq_succ_of_ne_zero room.ne'
    exact ⟨e, s, n, c, prev, .none e, linksBehind_of_no (l := semicolon s n c) (startsNoLink_of_ends calls rfl) k⟩
  | cons w ws ih =>
    simp only [accessTokens, List.flatMap_cons, List.cons_append, List.nil_append, List.map_eq_cons_iff] at tokens
    obtain ⟨⟨_, s, n, c⟩, _, rfl, rfl, ⟨_, s', n', c'⟩, ls, rfl, rfl, tokens⟩ := tokens
    obtain ⟨k, rfl⟩ := Nat.exists_eq_succ_of_ne_zero (Nat.ne_of_gt (Nat.zero_lt_of_lt room))
    obtain ⟨e', s'', n'', c'', prev', chain, run⟩ := ih tokens (Nat.lt_of_succ_lt_succ room)
    exact ⟨e', s'', n'', c'', prev', .member _ _ chain, (link?_access calls s s' n n' c c' w).bind run⟩

/-- A literal with accesses. -/
theorem exists_statement_accesses (ctx : Context) (prev : Span) {l : Lexeme} (lit : literal? l = some e) {w : String}
    {ws : List String} (tokens : ls.map Lexeme.token = accessTokens (w :: ws) ++ [.punct .semicolon]) {n : Nat}
    (room : ws.length ≤ n) (declarations top : Bool) :
    ∃ e' s prev' arrowAt', Expr.Accesses e (w :: ws) e' ∧
      Runs ctx ((Grammar.ofBound (n + 4)).statement declarations top) ⟨l :: ls, true, prev, none⟩ (.expression s e')
        ⟨[], false, prev', arrowAt'⟩ := by
  have starts := StartsOperand.of_literal lit
  have bound (k : Nat) : (Grammar.ofBound k).bound = k := Grammar.bound_ofBound k
  obtain ⟨-, noArrow, plain, -⟩ := literal?_spec lit
  simp only [accessTokens, List.flatMap_cons, List.cons_append, List.nil_append, List.map_eq_cons_iff] at tokens
  obtain ⟨⟨_, s, n₁, c⟩, _, rfl, rfl, ⟨_, s', n', c'⟩, ls, rfl, rfl, tokens⟩ := tokens
  -- the accesses behind the first one, up to the semicolon
  obtain ⟨e', s₂, n₂, c₂, prev', chain, run⟩ : ∃ e' s₂ n₂ c₂ prev',
      Expr.Accesses (.member ⟨e.span.start, s'.stop⟩ false e (.name ⟨w, s'⟩)) ws e' ∧
        Runs { ctx with allowIn := true } (linksBehind (Grammar.ofBound (n + 1)) false (n + 1)
          (.member ⟨e.span.start, s'.stop⟩ false e (.name ⟨w, s'⟩))) ⟨ls, false, s', none⟩ e'
          ⟨[semicolon s₂ n₂ c₂], true, prev', none⟩ :=
    linksBehind_accesses false tokens (Nat.lt_succ_of_le room)
  obtain ⟨t, o, k, shape⟩ := chain.exists_member ⟨_, _, _, rfl⟩
  have noArrow : arrowStart l = none := by rw [arrowStart, noArrow, if_neg Bool.false_ne_true]
  have links : Runs { ctx with allowIn := true } (links (Grammar.ofBound (n + 1)) false (.value e))
      ⟨⟨.punct .dot, s, n₁, c⟩ :: ⟨.word w false, s', n', c'⟩ :: ls, false, l.span, none⟩ e'
      ⟨[semicolon s₂ n₂ c₂], true, prev', none⟩ := by
    refine (link?_access false s s' n₁ n' c c' w).bind ?_
    dsimp only
    rw [bound]
    exact run
  -- and no call or further link behind them
  have called : Runs { ctx with allowIn := true }
      (linksBehind (Grammar.ofBound (n + 1)) true (Grammar.ofBound (n + 1)).bound e')
      ⟨[semicolon s₂ n₂ c₂], true, prev', none⟩ e' ⟨[semicolon s₂ n₂ c₂], true, prev', none⟩ := by
    rw [bound]
    exact linksBehind_of_no (l := semicolon s₂ n₂ c₂) (startsNoLink_of_ends true rfl) n
  have ends : endsExpression (semicolon s₂ n₂ c₂).token = true := rfl
  have plain' : e'.isArrow = false := by rw [shape]; rfl
  have operand : Runs { ctx with allowIn := true } (Grammar.ofBound (n + 3)).assignment
      ⟨l :: ⟨.punct .dot, s, n₁, c⟩ :: ⟨.word w false, s', n', c'⟩ :: ls, true, prev, none⟩ e'
      ⟨[semicolon s₂ n₂ c₂], true, prev', none⟩ := by
    refine assignment starts ends (bound (n + 2)) ?_
    rw [noArrow]
    exact unary starts ends
      (leftHandSide starts (bound (n + 1)) (primary_literal lit) plain links plain' called)
  have noName (n : Name) : e' ≠ .name n := by
    rw [shape]
    exact Expr.noConfusion
  exact ⟨e', _, _, none, .member _ _ chain, statement_literal lit noName declarations top operand⟩

end Runs

end Parser

end ScriptCoverage.Source
