import ScriptCoverage.Proofs.Source.Calling

/-!
How a script of one statement is read. Main statements: `Runs.statement_name` and `Runs.statement_literal` — an
expression that starts with a name or with a literal is a statement once there is a semicolon behind it — and
`Script.read_of_statement` and `Script.read_of_invalid` — a text that is this statement alone is read as it, and one
that starts with an unreadable token is refused for that.
-/

namespace ScriptCoverage.Source

namespace Parser

namespace Runs

variable {g : Grammar} {ctx : Context} {l l' : Lexeme} {ls ls' : List Lexeme} {looked : Bool} {prev prev' : Span}
  {arrowAt arrowAt' : Option Nat} {e : Expr} {s : Span} {newline : Bool} {c : Cursor}

/-- A semicolon. -/
def semicolon (s : Span) (newline : Bool) (c : Cursor) : Lexeme := ⟨.punct .semicolon, s, newline, c⟩

/-! ### Expression statements -/

theorem eatStatementEnd :
    Runs ctx Parser.eatStatementEnd ⟨semicolon s newline c :: ls, looked, prev, arrowAt⟩ true ⟨ls, false, s, arrowAt⟩ :=
  look.bind (advance.bind (pure true))

theorem expressionStatement (noName : ∀ n, e ≠ .name n)
    (operand : Runs { ctx with allowIn := true } g.assignment ⟨l :: ls, true, prev, arrowAt⟩ e
      ⟨semicolon s newline c :: ls', true, prev', arrowAt'⟩) :
    Runs ctx (expressionStatement g) ⟨l :: ls, looked, prev, arrowAt⟩ (.expression ⟨l.span.start, s.stop⟩ e)
      ⟨ls', false, s, arrowAt'⟩ := by
  have value : Runs { ctx with allowIn := true } (expression g) ⟨l :: ls, true, prev, arrowAt⟩ e
      ⟨semicolon s newline c :: ls', true, prev', arrowAt'⟩ :=
    operand.bind ((atPunct_of_not rfl).bind (pure e))
  unfold Parser.expressionStatement
  refine pos.bind ((withReader rfl value).bind ?_)
  split
  · next n => exact absurd rfl (noName n)
  · exact ifSo eatStatementEnd ((spanFrom _).bind (pure _))

/-- What a name starts is no statement with a keyword. -/
theorem keywordStatement? {w : String} (valid : Identifier.fault? w = none)
    (noFunction : isWord "function" (some l) = false) (declarations : Bool) :
    Runs ctx (keywordStatement? g declarations w) ⟨nameLexeme w s newline c :: l :: ls, looked, prev, arrowAt⟩ none
      ⟨nameLexeme w s newline c :: l :: ls, true, prev, arrowAt⟩ := by
  have other (v : String) (reserved : v ∈ Identifier.reservedWords) := ne_of_not_reserved valid reserved
  have noAsync (w : String) : Runs ctx atAsyncFunction ⟨nameLexeme w s newline c :: l :: ls, true, prev, arrowAt⟩ false
      ⟨nameLexeme w s newline c :: l :: ls, true, prev, arrowAt⟩ := by
    refine (atWord _).bind ?_
    split
    · exact pure false
    · refine (peek rfl).bind ?_
      change Runs ctx (Pure.pure (isWord "function" (some l) && !l.newline)) _ false _
      rw [noFunction]
      exact pure false
  unfold Parser.keywordStatement?
  refine pos.bind ?_
  split
  all_goals first
    | exact absurd rfl (other _ (by decide))
    | exact (noAsync _).bind (pure none)
    | exact pure none

theorem statement_name {w : String} {s₁ : Span} {newline₁ : Bool} {c₁ : Cursor} (valid : Identifier.fault? w = none)
    (noFunction : isWord "function" (some l) = false) (noName : ∀ n, e ≠ .name n) (declarations top : Bool)
    (operand : Runs { ctx with allowIn := true } g.assignment
      ⟨nameLexeme w s₁ newline₁ c₁ :: l :: ls, true, prev, arrowAt⟩ e
      ⟨semicolon s newline c :: ls', true, prev', arrowAt'⟩) :
    Runs ctx (statement g declarations top) ⟨nameLexeme w s₁ newline₁ c₁ :: l :: ls, looked, prev, arrowAt⟩
      (.expression ⟨s₁.start, s.stop⟩ e) ⟨ls', false, s, arrowAt'⟩ := by
  have starts : StartsOperand (nameLexeme w s₁ newline₁ c₁) := .of_name valid s₁ newline₁ c₁
  unfold Parser.statement
  refine (atWord_of_not (starts.noWord _ (by decide))).bind ((atWord_of_not (starts.noWord _ (by decide))).bind ?_)
  refine (require rfl).bind ((atWord_of_not (starts.noWord _ (by decide))).bind ?_)
  rw [Bool.and_false]
  exact (keywordStatement? valid noFunction declarations).bind (expressionStatement noName operand)

theorem statement_literal {e₁ : Expr} (lit : literal? l = some e₁) (noName : ∀ n, e ≠ .name n) (declarations top : Bool)
    (operand : Runs { ctx with allowIn := true } g.assignment ⟨l :: ls, true, prev, arrowAt⟩ e
      ⟨semicolon s newline c :: ls', true, prev', arrowAt'⟩) :
    Runs ctx (statement g declarations top) ⟨l :: ls, looked, prev, arrowAt⟩ (.expression ⟨l.span.start, s.stop⟩ e)
      ⟨ls', false, s, arrowAt'⟩ := by
  have starts := StartsOperand.of_literal lit
  unfold Parser.statement
  refine (atWord_of_not (starts.noWord _ (by decide))).bind ((atWord_of_not (starts.noWord _ (by decide))).bind ?_)
  refine (require starts.simple).bind ((atWord_of_not (starts.noWord _ (by decide))).bind ?_)
  rw [Bool.and_false]
  obtain ⟨t, s₁, n₁, c₁⟩ := l
  cases t with
  | number | string => exact expressionStatement noName operand
  | _ => cases lit

end Runs

end Parser

/-! ### Scripts -/

namespace Script

/-- A text that starts with a name or a digit has no line for an interpreter. -/
theorem afterInterpreterLine_eq {c : Cursor} (first : c.rest.head? ≠ some '#') :
    c.afterInterpreterLine = (c, none) := by
  unfold Cursor.afterInterpreterLine
  split
  · next split => exact absurd (by rw [split]; rfl) first
  · rfl

/-- What becomes of a reader that stands in front of a script. -/
def finish (p : Parser Script) (c : Cursor) : Except Failure Script :=
  match p {} { cursor := c, prev := ⟨c.pos, c.pos⟩ } with
  | .error f _ => throw f
  | .ok script reader =>
    match reader.noted with
    | some f => throw f
    | none => return script

section Finish

variable {c : Cursor} {ls : List Lexeme} {p : Parser Script}

theorem shows_start (lexes : Lexes {} c ls) :
    Reader.Shows {} { cursor := c, prev := ⟨c.pos, c.pos⟩ } ⟨ls, false, ⟨c.pos, c.pos⟩, none⟩ :=
  ⟨rfl, rfl, rfl, nofun, ls, lexes, rfl⟩

theorem finish_of_runs {t : Script} {v : View} (lexes : Lexes {} c ls)
    (run : Parser.Runs {} p ⟨ls, false, ⟨c.pos, c.pos⟩, none⟩ t v) : finish p c = .ok t := by
  obtain ⟨r, run, shows⟩ := run _ (shows_start lexes)
  rw [finish, run]
  dsimp only
  rw [shows.quiet]
  rfl

theorem finish_of_fails {f : Failure} (lexes : Lexes {} c ls)
    (fails : Parser.Fails {} p ⟨ls, false, ⟨c.pos, c.pos⟩, none⟩ f) : finish p c = .error f := by
  obtain ⟨r, fails⟩ := fails _ (shows_start lexes)
  rw [finish, fails]
  rfl

theorem goesOn {l : Lexeme} {looked : Bool} {prev : Span} {arrowAt : Option Nat} :
    Parser.Runs {} more ⟨l :: ls, looked, prev, arrowAt⟩ true ⟨l :: ls, true, prev, arrowAt⟩ := Parser.Runs.look.map _

end Finish

/-- A script that is one statement. -/
theorem read_of_statement {c : Cursor} {l : Lexeme} {ls : List Lexeme} {s prev : Span} {e : Expr} {arrowAt : Option Nat}
    (lexes : Lexes {} c (l :: ls)) (noString : ∀ t v raw, e ≠ .string t v raw)
    (statement : Parser.Runs {} ((Grammar.ofBound (2 * c.rest.length + 8)).statement true true)
      ⟨l :: ls, true, ⟨c.pos, c.pos⟩, none⟩ (.expression s e) ⟨[], false, prev, arrowAt⟩) :
    ∃ span, read c none = .ok ⟨span, none, [.expression s e]⟩ := by
  have notStrict : Parser.isStrictDirective (.expression s e) = false := by
    unfold Parser.isStrictDirective
    split
    · next h =>
      cases h
      exact absurd rfl (noString _ _ _)
    · rfl
  have body : Parser.Runs {} (Parser.statementsBehind (Grammar.ofBound (2 * c.rest.length + 8)) true more
      (Grammar.ofBound (2 * c.rest.length + 8)).bound true [])
      ⟨l :: ls, true, ⟨c.pos, c.pos⟩, none⟩ [.expression s e] ⟨[], true, prev, arrowAt⟩ := by
    have ends : Parser.Runs {} more ⟨[], false, prev, arrowAt⟩ false ⟨[], true, prev, arrowAt⟩ := Parser.Runs.look.map _
    rw [Grammar.bound_ofBound]
    unfold Parser.statementsBehind
    refine goesOn.bind (statement.bind ?_)
    rw [notStrict, Bool.and_false]
    exact ends.bind (.pure _)
  unfold read
  exact ⟨_, finish_of_runs lexes (Parser.Runs.pos.bind (body.bind ((Parser.Runs.spanFrom _).bind (.pure _))))⟩

/-- A script that starts with a token that cannot be read is refused for that. -/
theorem read_of_invalid {c : Cursor} {l : Lexeme} {ls : List Lexeme} {f : Failure} (lexes : Lexes {} c (l :: ls))
    (invalid : l.token = .invalid f) : read c none = .error f := by
  have noWord (w : String) : Parser.isWord w (some l) = false := by
    obtain ⟨_, _, _, _⟩ := l
    cases invalid
    rfl
  have statement (n : Nat) : Parser.Fails {} ((Grammar.ofBound (n + 1)).statement true true)
      ⟨l :: ls, true, ⟨c.pos, c.pos⟩, none⟩ f := by
    change Parser.Fails {} (Parser.statement (Grammar.ofBound n) true true) _ f
    unfold Parser.statement
    refine (Parser.Runs.atWord_of_not (noWord _)).bind_fails ((Parser.Runs.atWord_of_not (noWord _)).bind_fails ?_)
    exact (Parser.Fails.require invalid).bind _
  have body : Parser.Fails {} (Parser.statementsBehind (Grammar.ofBound (2 * c.rest.length + 8)) true more
      (Grammar.ofBound (2 * c.rest.length + 8)).bound true []) ⟨l :: ls, true, ⟨c.pos, c.pos⟩, none⟩ f := by
    rw [Grammar.bound_ofBound]
    unfold Parser.statementsBehind
    exact goesOn.bind_fails ((statement _).bind _)
  unfold read
  exact finish_of_fails lexes (Parser.Runs.pos.bind_fails (body.bind _))

end Script

end ScriptCoverage.Source
