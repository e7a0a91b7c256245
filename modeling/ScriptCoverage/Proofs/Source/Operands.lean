import ScriptCoverage.Proofs.Source.Reading

/-!
How an expression without operators is read. Each level of the grammar looks for its own operators around an operand
of the level below, finds none and passes the operand on. Main statement: `Runs.assignment` — what the lowest level
reads in front of a token that ends all expressions is what the highest one reads.
-/

namespace ScriptCoverage.Source

namespace Parser

/-! ### Ends and starts of operands -/

/-- Whether a token ends every expression before it. -/
def endsExpression : Token → Bool
  | .punct (.closing _) | .punct .comma | .punct .semicolon => true
  | _ => false

section Ends

variable {l : Lexeme} (ends : endsExpression l.token = true)

include ends

theorem eq_punct_of_ends : ∃ p s n c, l = ⟨.punct p, s, n, c⟩ ∧ endsExpression (.punct p) = true := by
  obtain ⟨t, s, n, c⟩ := l
  cases t with
  | punct p => exact ⟨p, s, n, c, rfl, ends⟩
  | _ => cases ends

theorem isPunct_of_ends {p : Punct} (other : endsExpression (.punct p) = false) : isPunct p (some l) = false := by
  obtain ⟨q, s, n, c, rfl, ends⟩ := eq_punct_of_ends ends
  change (p == q) = false
  rw [beq_eq_false_iff_ne]
  rintro rfl
  rw [ends] at other
  cases other

theorem no_operator_of_ends :
    updateOp? l.token = none ∧ assignOp? l.token = none ∧ ∀ allowIn, infixOp? allowIn l.token = none := by
  obtain ⟨q, s, n, c, rfl, ends⟩ := eq_punct_of_ends ends
  cases q <;> first | exact ⟨rfl, rfl, fun _ => rfl⟩ | cases ends

end Ends

/-- Whether a lexeme starts an operand that has no operator in front of it and is no keyword. -/
structure StartsOperand (l : Lexeme) : Prop where
  noWord : ∀ w ∈ Identifier.reservedWords, isWord w (some l) = false
  noUnary : unaryOp? l.token = none
  noUpdate : updateOp? l.token = none
  simple : l.token.isSimple = true

/-- A literal by its lexeme. -/
def literal? (l : Lexeme) : Option Expr :=
  match l.token with
  | .number value raw => some (.number l.span value raw)
  | .string value raw => some (.string l.span value raw)
  | _ => none

theorem StartsOperand.of_literal {l : Lexeme} {e : Expr} (h : literal? l = some e) : StartsOperand l := by
  obtain ⟨t, s, n, c⟩ := l
  cases t with
  | number | string => exact ⟨fun _ _ => rfl, rfl, rfl, rfl⟩
  | _ => cases h

theorem ne_of_not_reserved {w v : String} (valid : Identifier.fault? w = none)
    (reserved : v ∈ Identifier.reservedWords) : w ≠ v := by
  rintro rfl
  rw [Identifier.fault?] at valid
  split at valid
  · cases valid
  · split at valid
    · cases valid
    · split at valid
      · cases valid
      · rw [if_pos (List.contains_iff_mem.2 reserved)] at valid
        cases valid

theorem isKeyword_eq_false {w : String} (valid : Identifier.fault? w = none) : isKeyword w = false := by
  have reserved : ∀ v, isKeyword v = true → v ∈ Identifier.reservedWords := by
    simp only [isKeyword, List.contains_iff_mem]
    decide
  exact Bool.eq_false_iff.2 fun h => ne_of_not_reserved valid (reserved w h) rfl

theorem isReserved_eq_false {w : String} (valid : Identifier.fault? w = none) (m : Mode) : isReserved m w = false := by
  have future : isFutureKeyword w = false := by
    have reserved : ∀ v, isFutureKeyword v = true → v ∈ Identifier.reservedWords := by
      simp only [isFutureKeyword, List.contains_iff_mem]
      decide
    exact Bool.eq_false_iff.2 fun h => ne_of_not_reserved valid (reserved w h) rfl
  have other (v : String) (reserved : v ∈ Identifier.reservedWords) := ne_of_not_reserved valid reserved
  unfold isReserved
  split
  · exact absurd rfl (other "let" (by decide))
  · exact absurd rfl (other "await" (by decide))
  · exact absurd rfl (other "yield" (by decide))
  · rw [isKeyword_eq_false valid, future, Bool.and_false]
    rfl

theorem StartsOperand.of_name {w : String} (valid : Identifier.fault? w = none) (s : Span) (n : Bool) (c : Cursor) :
    StartsOperand ⟨.word w false, s, n, c⟩ := by
  refine ⟨fun v reserved => beq_false_of_ne (ne_of_not_reserved valid reserved), ?_, rfl, rfl⟩
  have other (v : String) (reserved : v ∈ Identifier.reservedWords) := ne_of_not_reserved valid reserved
  simp [unaryOp?, other "typeof" (by decide), other "void" (by decide), other "delete" (by decide)]

namespace Runs

variable {g : Grammar} {ctx : Context} {l : Lexeme} {ls : List Lexeme} {looked : Bool} {prev : Span}
  {arrowAt : Option Nat} {e : Expr} {v v' : View}

/-! ### Links -/

theorem eatOptional_of_not (other : isPunct .question (some l) = false) :
    Runs ctx eatOptional ⟨l :: ls, looked, prev, arrowAt⟩ false ⟨l :: ls, true, prev, arrowAt⟩ :=
  (atPunct_of_not other).bind (pure false)

/-- Whether no access or call starts with a lexeme. -/
def StartsNoLink (calls : Bool) (l : Lexeme) : Prop :=
  (∀ p ∈ [Punct.question, .opening .square, .dot, .backquote], isPunct p (some l) = false) ∧
    (calls = true → isPunct (.opening .round) (some l) = false)

theorem startsNoLink_of_ends (calls : Bool) (ends : endsExpression l.token = true) : StartsNoLink calls l := by
  refine ⟨fun p hp => isPunct_of_ends ends ?_, fun _ => isPunct_of_ends ends rfl⟩
  simp only [List.mem_cons, List.not_mem_nil, or_false] at hp
  rcases hp with rfl | rfl | rfl | rfl <;> rfl

section Links

variable {calls : Bool} (no : StartsNoLink calls l)

include no

theorem link?_of_no :
    Runs ctx (link? g calls (.value e)) ⟨l :: ls, looked, prev, arrowAt⟩ none ⟨l :: ls, true, prev, arrowAt⟩ := by
  have noMember : Runs ctx (do
      if ← Parser.eat .dot then
        let k ← memberName
        return some (← access (.value e) calls false k)
      else if ← Parser.atPunct .backquote then return some (← taggedTemplate g e) else return none)
      ⟨l :: ls, true, prev, arrowAt⟩ none ⟨l :: ls, true, prev, arrowAt⟩ :=
    ifNot (eat_of_not (no.1 _ (by decide))) (ifNot (atPunct_of_not (no.1 _ (by decide))) (pure none))
  unfold link?
  refine (eatOptional_of_not (no.1 _ (by decide))).bind (ifNot (atPunct_of_not (no.1 _ (by decide))) ?_)
  cases calls with
  | false => exact ifNot (pure false) noMember
  | true => exact ifNot (atPunct_of_not (no.2 rfl)) noMember

theorem linksBehind_of_no (n : Nat) :
    Runs ctx (linksBehind g calls (n + 1) e) ⟨l :: ls, looked, prev, arrowAt⟩ e ⟨l :: ls, true, prev, arrowAt⟩ :=
  (link?_of_no no).bind (pure e)

theorem links_of_no {n : Nat} (room : g.bound = n + 1) :
    Runs ctx (links g calls (.value e)) ⟨l :: ls, looked, prev, arrowAt⟩ e ⟨l :: ls, true, prev, arrowAt⟩ := by
  refine (link?_of_no no).bind ?_
  dsimp only
  rw [room]
  exact linksBehind_of_no no n

end Links

/-! ### Literals -/

theorem primary_literal (lit : literal? l = some e) :
    Runs ctx (primary g) ⟨l :: ls, looked, prev, arrowAt⟩ e ⟨ls, false, l.span, arrowAt⟩ := by
  obtain ⟨t, s, n, c⟩ := l
  unfold primary
  refine look.bind (get_bind fun r _ _ => ?_)
  cases t with
  | number | string =>
    cases lit
    exact advance.bind (pure _)
  | _ => cases lit

/-! ### Operands -/

section Operands

variable {e' : Expr} {n : Nat} (starts : StartsOperand l)

include starts

theorem memberOrNew (prim : Runs ctx (primary g) ⟨l :: ls, true, prev, arrowAt⟩ e v) (plain : e.isArrow = false)
    (behind : Runs ctx (links g false (.value e)) v e' v') :
    Runs ctx (memberOrNew g (n + 1)) ⟨l :: ls, looked, prev, arrowAt⟩ e' v' := by
  unfold Parser.memberOrNew
  refine ifNot (atWord_of_not (starts.noWord _ (by decide))) (ifNot (atWord_of_not (starts.noWord _ (by decide))) ?_)
  refine ifNot (atWord_of_not (starts.noWord _ (by decide))) (prim.bind ?_)
  rw [plain]
  exact behind

theorem leftHandSide (room : g.bound = n + 1) (prim : Runs ctx (primary g) ⟨l :: ls, true, prev, arrowAt⟩ e v)
    (plain : e.isArrow = false) {e₁ : Expr} {v₁ : View} (behind : Runs ctx (links g false (.value e)) v e₁ v₁)
    (plain₁ : e₁.isArrow = false) (called : Runs ctx (linksBehind g true g.bound e₁) v₁ e' v') :
    Runs ctx (leftHandSide g) ⟨l :: ls, looked, prev, arrowAt⟩ e' v' := by
  unfold Parser.leftHandSide
  refine ifNot (atWord_of_not (starts.noWord _ (by decide))) (ifNot (atWord_of_not (starts.noWord _ (by decide))) ?_)
  rw [room]
  refine (memberOrNew starts prim plain behind).bind ?_
  rw [plain₁]
  rw [room] at called
  exact called

variable {l' : Lexeme} {ls' : List Lexeme} {prev' : Span} {arrowAt' : Option Nat}
  (ends : endsExpression l'.token = true)

include ends

theorem unary (operand : Runs ctx (Parser.leftHandSide g) ⟨l :: ls, true, prev, arrowAt⟩ e
      ⟨l' :: ls', true, prev', arrowAt'⟩) :
    Runs ctx (unary g) ⟨l :: ls, looked, prev, arrowAt⟩ e ⟨l' :: ls', true, prev', arrowAt'⟩ := by
  unfold Parser.unary
  refine pos.bind ((here?_of_none starts.noUpdate).bind ((here?_of_none starts.noUnary).bind ?_))
  refine ifNot (atWord_of_not (starts.noWord _ (by decide))) (operand.bind (newlineBefore.bind ?_))
  split
  · exact pure e
  · exact (here?_of_none (no_operator_of_ends ends).1).bind (pure e)

omit starts in
theorem operations {n : Nat} : Runs ctx (operations g (n + 1) 0 e) ⟨l' :: ls', looked, prev, arrowAt⟩ e
    ⟨l' :: ls', true, prev, arrowAt⟩ := by
  have noInfix : Runs ctx infixHere? ⟨l' :: ls', looked, prev, arrowAt⟩ none ⟨l' :: ls', true, prev, arrowAt⟩ := by
    refine look.bind (read.bind ?_)
    rw [(no_operator_of_ends ends).2.2]
    exact pure none
  exact noInfix.bind (pure e)

omit starts in
theorem conditional (room : g.bound = n + 1)
    (operand : Runs ctx g.unary ⟨l :: ls, true, prev, arrowAt⟩ e ⟨l' :: ls', true, prev', arrowAt'⟩) :
    Runs ctx (conditional g) ⟨l :: ls, looked, prev, arrowAt⟩ e ⟨l' :: ls', true, prev', arrowAt'⟩ := by
  have first : Runs ctx (firstOperand g) ⟨l :: ls, true, prev, arrowAt⟩ e ⟨l' :: ls', true, prev', arrowAt'⟩ :=
    operand.attempt.bind (pure e)
  unfold Parser.conditional
  refine pos.bind (first.bind ?_)
  split
  · exact pure e
  · rw [room]
    exact (operations ends).bind ((eat_of_not (isPunct_of_ends ends rfl)).bind (pure e))

/-- Where an arrow function may start if it starts with a lexeme. -/
def arrowStart (l : Lexeme) : Option Nat := if startsArrow l.token then some l.span.start else none

theorem assignment (room : g.bound = n + 1)
    (operand : Runs ctx g.unary ⟨l :: ls, true, prev, arrowStart l⟩ e ⟨l' :: ls', true, prev', arrowAt'⟩) :
    Runs ctx (assignment g) ⟨l :: ls, looked, prev, arrowAt⟩ e ⟨l' :: ls', true, prev', arrowAt'⟩ := by
  unfold Parser.assignment
  refine read.bind ((atWord_of_not (starts.noWord _ (by decide))).bind ?_)
  dsimp only
  rw [Bool.and_false, if_neg Bool.false_ne_true]
  refine (require starts.simple).bind ((setArrow (arrowStart l)).bind ((conditional ends room operand).bind ?_))
  split
  · exact pure e
  · exact (here?_of_none (no_operator_of_ends ends).2.1).bind (pure e)

end Operands

end Runs

end Parser

end ScriptCoverage.Source
