import Mathlib.Algebra.Ring.Nat
import ScriptCoverage.Source.Script

/-!
The walk over tokens counts open brackets and pending operators exactly. Main statement: `Nesting.depth_never_drifts` — whatever
tokens are read, the depth is the number of open brackets and of the operators that wait in them, a closing bracket takes
it back to what it was in front of its opening one, and a text is refused at the latest where more brackets than allowed
are open.
-/

namespace ScriptCoverage.Source

/-! ### Brackets of a run of tokens -/

/-- Whether a token opens a bracket; the start of a substitution does. -/
def Token.isOpening (t : Token) : Bool := t matches .punct (.opening _) | .punct .substitution

/-- Whether a token closes a bracket. -/
def Token.isClosing (t : Token) : Bool := t matches .punct (.closing _)

theorem Token.isClosing_of_isOpening {t : Token} (opens : t.isOpening = true) : t.isClosing = false := by
  unfold isOpening at opens
  unfold isClosing
  split at opens <;> simp_all

/-- How many brackets are open behind some tokens if `k` are open in front of them. A closing bracket, of whatever kind,
closes the last one that is open; where none is open, it closes nothing. -/
def openAfter : Nat → List Token → Nat
  | k, [] => k
  | k, t :: ts => openAfter (if t.isOpening then k + 1 else if t.isClosing then k - 1 else k) ts

/-- Tokens in which every bracket that is opened is closed, and no other one. -/
inductive Balanced : List Token → Prop
  | nil : Balanced []
  | other {t : Token} {ts : List Token} (opens : t.isOpening = false) (closes : t.isClosing = false)
      (behind : Balanced ts) : Balanced (t :: ts)
  | bracket {o c : Token} {ts us : List Token} (opens : o.isOpening = true) (closes : c.isClosing = true)
      (inside : Balanced ts) (behind : Balanced us) : Balanced (o :: (ts ++ c :: us))

theorem openAfter_append (k : Nat) (ts us : List Token) : openAfter k (ts ++ us) = openAfter (openAfter k ts) us := by
  induction ts generalizing k with
  | nil => rfl
  | cons t ts ih => exact ih _

namespace Balanced

variable {ts us : List Token}

theorem append (hs : Balanced ts) (hu : Balanced us) : Balanced (ts ++ us) := by
  induction hs with
  | nil => exact hu
  | other opens closes _ ih => exact .other opens closes ih
  | bracket opens closes inside _ _ ih =>
    rw [List.cons_append, List.append_assoc, List.cons_append]
    exact .bracket opens closes inside ih

theorem openAfter_eq (h : Balanced ts) (k : Nat) : openAfter k ts = k := by
  induction h generalizing k with
  | nil => rfl
  | other opens closes _ ih => simp [openAfter, opens, closes, ih]
  | @bracket o c _ _ opens closes _ _ inside behind =>
    have ne : c.isOpening = false := by
      cases h : c.isOpening with
      | false => rfl
      | true => rw [Token.isClosing_of_isOpening h] at closes; cases closes
    simp [openAfter, openAfter_append, opens, closes, ne, inside, behind]

end Balanced

/-- Where a bracket is open, the last one that is has all those closed that were opened behind it. -/
theorem exists_opening (ts : List Token) (h : 0 < openAfter 0 ts) :
    ∃ before o inside, ts = before ++ o :: inside ∧ o.isOpening = true ∧ Balanced inside := by
  -- A closing bracket passes the question on to the tokens in front of the bracket that it closes.
  induction n : ts.length using Nat.strongRecOn generalizing ts with
  | _ n ih =>
    rcases List.eq_nil_or_concat ts with rfl | ⟨front, t, rfl⟩
    · cases h
    subst n
    rw [List.concat_eq_append] at h ⊢
    rw [openAfter_append, openAfter, openAfter] at h
    cases opens : t.isOpening with
    | true => exact ⟨front, t, [], rfl, opens, .nil⟩
    | false =>
      cases closes : t.isClosing with
      | false =>
        rw [opens, closes, if_neg (by decide), if_neg (by decide)] at h
        obtain ⟨before, o, inside, rfl, ho, balanced⟩ := ih front.length (by simp) front h rfl
        exact ⟨before, o, inside ++ [t], by simp, ho, balanced.append (.other opens closes .nil)⟩
      | true =>
        rw [opens, closes, if_neg (by decide), if_pos rfl] at h
        obtain ⟨middle, o, inside, rfl, ho, balanced⟩ := ih front.length (by simp) front (by omega) rfl
        rw [openAfter_append, openAfter, if_pos ho, balanced.openAfter_eq] at h
        obtain ⟨before, o', inside', rfl, ho', balanced'⟩ := ih middle.length (by simp) middle (by omega) rfl
        refine ⟨before, o', inside' ++ o :: (inside ++ t :: []), by simp, ho', ?_⟩
        exact balanced'.append (.bracket ho closes balanced .nil)

namespace Nesting

/-! ### What one token does -/

/-- The nesting behind some tokens. -/
def after (ts : List Token) : Nesting := ts.foldl step {}

/-- The operators that wait, bracket by bracket, those of the text itself last. -/
def chains (n : Nesting) : List Nat := n.innermost :: n.outer

/-- The depth is the number of open brackets and of all operators that wait. -/
def IsExact (n : Nesting) : Prop := n.depth = n.outer.length + n.chains.sum

theorem isExact_start : IsExact {} := rfl

variable {n : Nesting} {t : Token}

theorem ofToken_of_isOpening (opens : t.isOpening = true) : NestingClass.ofToken t = .opens := by
  unfold Token.isOpening at opens
  split at opens <;> first | rfl | cases opens

theorem ofToken_of_isClosing (closes : t.isClosing = true) : NestingClass.ofToken t = .closes := by
  unfold Token.isClosing at closes
  split at closes <;> first | rfl | cases closes

theorem ofWord_ne (w : String) : NestingClass.ofWord w ≠ .opens ∧ NestingClass.ofWord w ≠ .closes := by
  unfold NestingClass.ofWord
  repeat' split
  all_goals decide

theorem ofToken_ne (opens : t.isOpening = false) (closes : t.isClosing = false) :
    NestingClass.ofToken t ≠ .opens ∧ NestingClass.ofToken t ≠ .closes := by
  unfold NestingClass.ofToken
  split
  any_goals first | decide | (cases opens; done) | (cases closes; done)
  next w escaped =>
    split
    · decide
    · exact ofWord_ne w

theorem IsExact.reset (h : n.IsExact) : n.reset.IsExact ∧ n.reset.depth + n.innermost = n.depth := by
  simp only [IsExact, chains, Nesting.reset, List.sum_cons] at h ⊢
  omega

theorem IsExact.extend (h : n.IsExact) : n.extend.IsExact := by
  simp only [IsExact, chains, Nesting.extend, List.sum_cons] at h ⊢
  omega

theorem IsExact.prefixOperator (h : n.IsExact) : n.prefixOperator.IsExact ∧ n.prefixOperator.outer = n.outer := by
  unfold Nesting.prefixOperator
  split
  · exact ⟨h.reset.1.extend, rfl⟩
  · exact ⟨h.extend, rfl⟩

theorem step_opening (opens : t.isOpening = true) :
    n.step t = { innermost := 0, outer := n.chains, depth := n.depth + 1, afterOperand := false } := by
  unfold step
  simp only [ofToken_of_isOpening opens, chains]

theorem step_closing_nil (closes : t.isClosing = true) (none : n.outer = []) :
    n.step t = { n with afterOperand := true } := by
  unfold step
  simp only [ofToken_of_isClosing closes, none]

theorem step_closing_cons (closes : t.isClosing = true) {chain : Nat} {outer : List Nat}
    (around : n.outer = chain :: outer) :
    n.step t = { innermost := chain, outer, depth := n.depth - (n.innermost + 1), afterOperand := true } := by
  unfold step
  simp only [ofToken_of_isClosing closes, around]

/-- A token that is no bracket leaves the brackets around alone and the depth exact. -/
theorem step_other (opens : t.isOpening = false) (closes : t.isClosing = false) (h : n.IsExact) :
    (n.step t).IsExact ∧ (n.step t).outer = n.outer := by
  obtain ⟨noOpening, noClosing⟩ := ofToken_ne opens closes
  unfold step
  cases kind : NestingClass.ofToken t with
  | opens => exact absurd kind noOpening
  | closes => exact absurd kind noClosing
  | separates => exact ⟨h.reset.1, rfl⟩
  | rightAssociative => exact ⟨h.extend, rfl⟩
  | step =>
    dsimp only
    split
    · exact ⟨h, rfl⟩
    · exact h.prefixOperator
  | sign =>
    dsimp only
    split
    · exact ⟨h, rfl⟩
    · exact h.prefixOperator
  | prefixed => exact h.prefixOperator
  | operand =>
    dsimp only
    split
    · exact ⟨h.reset.1, rfl⟩
    · exact ⟨h, rfl⟩
  | other => exact ⟨h, rfl⟩

/-- A closing bracket gives back the chains around it, and its subtraction does not clip. -/
theorem IsExact.close (h : n.IsExact) (closes : t.isClosing = true) {chain : Nat} {outer : List Nat}
    (around : n.outer = chain :: outer) :
    (n.step t).chains = n.outer ∧ (n.step t).depth + (n.innermost + 1) = n.depth := by
  rw [step_closing_cons closes around, around]
  simp only [IsExact, chains, around, List.sum_cons, List.length_cons] at h ⊢
  exact ⟨trivial, by omega⟩

theorem IsExact.step (h : n.IsExact) (t : Token) : (n.step t).IsExact := by
  cases opens : t.isOpening with
  | true =>
    rw [step_opening opens]
    simp only [IsExact, chains, List.sum_cons, List.length_cons] at h ⊢
    omega
  | false =>
    cases closes : t.isClosing with
    | false => exact (step_other opens closes h).1
    | true =>
      cases around : n.outer with
      | nil =>
        rw [step_closing_nil closes around]
        exact h
      | cons chain outer =>
        obtain ⟨back, depth⟩ := h.close closes around
        simp only [IsExact, chains, around, List.sum_cons, List.length_cons] at h back ⊢
        rw [List.cons.injEq] at back
        rw [back.1, back.2]
        omega

/-! ### What a run of tokens does -/

theorem IsExact.foldl (h : n.IsExact) (ts : List Token) : (ts.foldl Nesting.step n).IsExact := by
  induction ts generalizing n with
  | nil => exact h
  | cons t ts ih => exact ih (h.step t)

theorem isExact_after (ts : List Token) : (after ts).IsExact := IsExact.foldl isExact_start ts

theorem after_append (ts us : List Token) : after (ts ++ us) = us.foldl step (after ts) := List.foldl_append

theorem length_outer (h : n.IsExact) (ts : List Token) :
    (ts.foldl step n).outer.length = openAfter n.outer.length ts := by
  induction ts generalizing n with
  | nil => rfl
  | cons t ts ih =>
    rw [List.foldl_cons, ih (h.step t), openAfter]
    congr 1
    cases opens : t.isOpening with
    | true => simp [step_opening opens, chains]
    | false =>
      cases closes : t.isClosing with
      | true =>
        cases around : n.outer with
        | nil => simp [step_closing_nil closes around, around]
        | cons chain outer => simp [step_closing_cons closes around]
      | false => simp [(step_other opens closes h).2]

/-- Behind balanced tokens the brackets around are the same, each with the operators that wait in it. -/
theorem outer_balanced {ts : List Token} (balanced : Balanced ts) (h : n.IsExact) :
    (ts.foldl step n).outer = n.outer := by
  induction balanced generalizing n with
  | nil => rfl
  | other opens closes _ ih => rw [List.foldl_cons, ih (h.step _), (step_other opens closes h).2]
  | @bracket o c ts us opens closes _ _ inside behind =>
    have exact := (h.step o).foldl ts
    have around : (ts.foldl step (n.step o)).outer = n.chains := by rw [inside (h.step o), step_opening opens]
    rw [List.foldl_cons, List.foldl_append, List.foldl_cons, behind (exact.step c)]
    exact (List.cons.inj ((exact.close closes around).1.trans around)).2

/-- A closing bracket gives back the depth that was there in front of its opening one, and all that waited there. -/
theorem IsExact.restored (h : n.IsExact) {o c : Token} {inside : List Token} (opens : o.isOpening = true)
    (closes : c.isClosing = true) (balanced : Balanced inside) :
    (((o :: inside).foldl Nesting.step n).step c).chains = n.chains ∧
      (((o :: inside).foldl Nesting.step n).step c).depth = n.depth := by
  have exact := h.foldl (o :: inside)
  have around : ((o :: inside).foldl Nesting.step n).outer = n.chains := by
    rw [List.foldl_cons, outer_balanced balanced (h.step o), step_opening opens]
  have back := (exact.close closes around).1.trans around
  refine ⟨back, ?_⟩
  have whole := exact.step c
  have := (List.cons.inj back).2
  rw [IsExact, back, this] at whole
  rw [whole, h]

/-! ### The limit -/

/-- Where the depth is above the limit behind the tokens that were read, the walk has stopped at one of them. -/
theorem tooDeep?_append {limit : Nat} {read : List Lexeme} (behind : List Lexeme)
    (within : n.depth ≤ limit) (deep : limit < ((read.map Lexeme.token).foldl step n).depth) :
    ∃ front l, front ++ [l] <+: read ∧ limit < (((front ++ [l]).map Lexeme.token).foldl step n).depth ∧
      n.tooDeep? limit (read ++ behind) = some l.span.start := by
  induction read generalizing n with
  | nil => exact absurd deep (Nat.not_lt.2 within)
  | cons l ls ih =>
    rw [List.cons_append, tooDeep?]
    split
    · next found => exact ⟨[], l, by simp, found, rfl⟩
    · next room =>
      obtain ⟨front, k, stands, above, stopped⟩ := ih (Nat.not_lt.1 room) deep
      exact ⟨l :: front, k, List.cons_prefix_cons.2 ⟨rfl, stands⟩, above, stopped⟩

end Nesting

theorem Script.parseWithLimit_of_tooDeep? {source : String} {limit offset : Nat}
    (stopped : Nesting.tooDeep? limit {} (Lexeme.all (Cursor.ofString source).afterInterpreterLine.1) = some offset) :
    parseWithLimit source limit = .error (.tooDeep limit offset) := by
  rw [parseWithLimit]
  dsimp only
  rw [stopped]

namespace Nesting

/-- The count of open brackets and pending operators never drifts, whatever tokens are read: there is a chain of waiting
operators for each open bracket and one for the text, the depth is the number of open brackets and of all operators that
wait, and neither the end of an expression nor a closing bracket takes off more than was counted. A closing bracket
either closes none, and changes neither chains nor depth, or gives back the chains and the depth in front of the bracket
that it closes. So the depth is no less than the number of open brackets, and where this number is above the limit, the
walk has stopped at one of the tokens that were read, and so has the reading of a script that starts with them. -/
theorem depth_never_drifts (ts : List Token) :
    (after ts).chains.length = openAfter 0 ts + 1 ∧
    (after ts).depth = openAfter 0 ts + (after ts).chains.sum ∧
    (after ts).reset.depth + (after ts).innermost = (after ts).depth ∧
    (∀ c : Token, c.isClosing = true →
      openAfter 0 ts = 0 ∧ (after (ts ++ [c])).chains = (after ts).chains ∧
          (after (ts ++ [c])).depth = (after ts).depth ∨
      0 < openAfter 0 ts ∧ (after (ts ++ [c])).depth + ((after ts).innermost + 1) = (after ts).depth ∧
        ∃ before o inside, ts = before ++ o :: inside ∧ o.isOpening = true ∧ Balanced inside ∧
          (after (ts ++ [c])).chains = (after before).chains ∧ (after (ts ++ [c])).depth = (after before).depth) ∧
    openAfter 0 ts ≤ (after ts).depth ∧
    ∀ (limit : Nat) (read behind : List Lexeme), read.map Lexeme.token = ts → limit < openAfter 0 ts →
      ∃ front l, front ++ [l] <+: read ∧ limit < (after ((front ++ [l]).map Lexeme.token)).depth ∧
        tooDeep? limit {} (read ++ behind) = some l.span.start ∧
        ∀ source, Lexeme.all (Cursor.ofString source).afterInterpreterLine.1 = read ++ behind →
          Script.parseWithLimit source limit = .error (.tooDeep limit l.span.start) := by
  have exact := isExact_after ts
  have count : (after ts).outer.length = openAfter 0 ts := length_outer isExact_start ts
  have depth : (after ts).depth = openAfter 0 ts + (after ts).chains.sum := by rw [← count]; exact exact
  have atLeast : openAfter 0 ts ≤ (after ts).depth := by omega
  refine ⟨by rw [← count]; rfl, depth, exact.reset.2, fun c closes => ?_, atLeast, fun limit read behind tokens many => ?_⟩
  · rw [after_append, List.foldl_cons, List.foldl_nil]
    -- a closing bracket closes the innermost open one, if there is one
    cases around : (after ts).outer with
    | nil =>
      rw [around] at count
      rw [step_closing_nil closes around]
      exact .inl ⟨count.symm, rfl, rfl⟩
    | cons chain outer =>
      have positive : 0 < openAfter 0 ts := by rw [← count, around]; exact Nat.succ_pos _
      obtain ⟨before, o, inside, cut, opens, balanced⟩ := exists_opening ts positive
      refine .inr ⟨positive, (exact.close closes around).2, before, o, inside, cut, opens, balanced, ?_⟩
      rw [cut, after_append]
      exact (isExact_after before).restored opens closes balanced
  · have deep : limit < (after (read.map Lexeme.token)).depth := by rw [tokens]; omega
    obtain ⟨front, l, stands, above, stopped⟩ := tooDeep?_append behind (Nat.zero_le limit) deep
    refine ⟨front, l, stands, above, stopped, fun source all => ?_⟩
    exact Script.parseWithLimit_of_tooDeep? (by rw [all, stopped])

/-- A stray closing bracket, then an open one with two operators that wait: a closing bracket of another kind takes the
depth back to zero. With one more opening bracket, the text is refused where one is allowed. -/
theorem depth_never_drifts_stray :
    let ts : List Token := [.punct (.closing .round), .punct (.opening .round), .punct .bang, .punct .tilde]
    (after ts).depth = 1 + 2 ∧
    (∃ before o inside, ts = before ++ o :: inside ∧ o.isOpening = true ∧ Balanced inside ∧
      (after (ts ++ [.punct (.closing .square)])).depth = (after before).depth) ∧
    ∃ l ∈ Lexeme.all (Cursor.ofString ")(!~[").afterInterpreterLine.1,
      Script.parseWithLimit ")(!~[" 1 = .error (.tooDeep 1 l.span.start) := by
  intro ts
  obtain ⟨-, depth, -, closing, -⟩ := depth_never_drifts ts
  refine ⟨depth, ?_, ?_⟩
  · rcases closing (.punct (.closing .square)) rfl with ⟨none, -⟩ | ⟨-, -, before, o, inside, cut, opens, balanced, -, same⟩
    · exact absurd none (by decide)
    · exact ⟨before, o, inside, cut, opens, balanced, same⟩
  · obtain ⟨-, -, -, -, -, limited⟩ := depth_never_drifts
      ((Lexeme.all (Cursor.ofString ")(!~[").afterInterpreterLine.1).map Lexeme.token)
    obtain ⟨front, l, stands, -, -, refused⟩ := limited 1 _ [] rfl (by decide +kernel)
    exact ⟨l, stands.subset (by simp), refused _ (by simp)⟩

end Nesting

end ScriptCoverage.Source
