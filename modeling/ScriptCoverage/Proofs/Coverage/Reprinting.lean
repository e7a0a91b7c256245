import ScriptCoverage.Proofs.Coverage.Printed
import ScriptCoverage.Proofs.Source.Accesses

/-!
Numbers in front of points, printed and read again. The printer puts a second point behind digits, so that the first
one may belong to the number, but not if the digits start with a needless zero: a point does not belong to an octal
number. Main statements: `number_access_reprints` — the printed text of digits with accesses is read as the same
program, unless they are a decimal number that starts with a zero — and `old_decimal_access_not_reprinted`, where
they are.
-/

namespace ScriptCoverage

open Source (Expr Stmt Script Token Lexeme Lexes LexesAs Parser Cursor Grammar accessText accessTokens)

/-! ### Programs -/

/-- Whether an expression of a program consists of accesses to another one by names; the ranges may be any. -/
inductive Program.Expr.Accesses : Program.Expr → List String → Program.Expr → Prop
  | none (e : Program.Expr) : Accesses e [] e
  | member {e e' : Program.Expr} {w : String} {ws : List String} (s : Span)
      (behind : Accesses (.place (.member s e w)) ws e') : Accesses e (w :: ws) e'

/-- Whether a program is a number with accesses by names. -/
def Program.IsNumberAccess (program : Program) (value : Float) (ws : List String) : Prop :=
  ∃ s e s₀, program.body = [.expression s e] ∧ Program.Expr.Accesses (.number s₀ value) ws e

namespace Source

theorem Expr.Accesses.lower {e e' : Expr} {ws : List String} (h : Expr.Accesses e ws e') {b : Program.Expr}
    (base : e.lower = .ok b) : ∃ b', e'.lower = .ok b' ∧ Program.Expr.Accesses b ws b' := by
  induction h generalizing b with
  | none => exact ⟨b, base, .none b⟩
  | @member e e' w ws s t _ ih =>
    have access : (Expr.member s false e (.name ⟨w, t⟩)).lower = .ok (.place (.member s b w)) := by
      rw [Expr.lower, base]
      rfl
    obtain ⟨b', lowered, chain⟩ := ih access
    exact ⟨b', lowered, .member s chain⟩

/-! ### Texts -/

theorem Expr.Accesses.print {e e' : Expr} {ws : List String} (h : Expr.Accesses e ws e')
    (onePoint : needsSecondPoint e = false) (depth : Nat) :
    (e'.print depth).toList = (e.print depth).toList ++ accessText ws := by
  induction h with
  | none => exact (List.append_nil _).symm
  | @member e e' w ws s t _ ih =>
    have access : (Expr.member s false e (.name ⟨w, t⟩)).print depth = e.print depth ++ "." ++ w := by
      rw [Expr.print]
      · simp [onePoint, Key.print]
      · exact fun _ _ => Key.noConfusion
    rw [ih rfl, access]
    simp [accessText]

namespace Script

/-- Whether a script is a number with a spelling and accesses by names. -/
def IsNumberAccess (t : Script) (value : Float) (raw : String) (ws : List String) : Prop :=
  ∃ span s e s₀, t = ⟨span, none, [.expression s e]⟩ ∧ Expr.Accesses (.number s₀ value (some raw)) ws e

variable {t : Script} {value : Float} {raw w : String} {ws : List String}

theorem IsNumberAccess.lower (h : t.IsNumberAccess value raw ws) :
    ∃ program, t.lower = .ok program ∧ program.IsNumberAccess value ws := by
  obtain ⟨span, s, e, s₀, rfl, chain⟩ := h
  obtain ⟨b, lowered, chain⟩ := chain.lower (b := .number s₀ value) rfl
  refine ⟨⟨span, [.expression s b]⟩, ?_, s, b, s₀, rfl, chain⟩
  simp only [Script.lower, Stmt.lowerAll, Stmt.lower, lowered]
  rfl

/-- The text of a number with accesses: a second point stands in front of the first name if the first point would be
taken for that of the number. -/
theorem IsNumberAccess.print (h : t.IsNumberAccess value raw (w :: ws)) :
    t.print.toList = raw.toList ++ (if needsSecondPoint (.number .dummy value (some raw)) then ['.'] else []) ++
      accessText (w :: ws) ++ [';', '\n'] := by
  obtain ⟨span, s, e, s₀, rfl, chain⟩ := h
  have printed : (e.print 0).toList =
      raw.toList ++ (if needsSecondPoint (.number .dummy value (some raw)) then ['.'] else []) ++
        accessText (w :: ws) := by
    cases chain with
    | member s t behind =>
      rw [behind.print rfl, Expr.print]
      · have same : needsSecondPoint (.number s₀ value (some raw)) =
            needsSecondPoint (.number .dummy value (some raw)) := rfl
        rw [same]
        cases needsSecondPoint (.number .dummy value (some raw)) <;> simp [Expr.print, Key.print, accessText]
      · exact fun _ _ => Key.noConfusion
  have text : Script.print ⟨span, none, [.expression s e]⟩ = "" ++ (e.print 0 ++ ";" ++ "\n" ++ "") := rfl
  rw [text]
  simp [printed]

/-! ### Reading texts -/

/-- A text with the tokens of a number with accesses is read as that number with accesses. -/
theorem readText_of_lexesAs {text : String} (first : text.toList.head? ≠ some '#')
    (lexes : LexesAs {} text.toList (.number value raw :: (accessTokens (w :: ws) ++ [.punct .semicolon]))) :
    ∃ t, readText text = .ok t ∧ t.IsNumberAccess value raw (w :: ws) := by
  obtain ⟨ls, lexes, lexed, -, -⟩ := lexes (Cursor.ofString text) rfl
  obtain ⟨⟨_, s₀, n, c⟩, ls, rfl, rfl, tokens⟩ := List.map_eq_cons_iff.1 lexed
  have room : ws.length ≤ 2 * (Cursor.ofString text).rest.length + 4 := by
    have short := lexes.length_le
    have length := congrArg List.length tokens
    rw [List.length_map, List.length_append, length_accessTokens, List.length_cons] at length
    rw [List.length_cons] at short
    omega
  obtain ⟨e, s, prev, arrowAt, chain, statement⟩ := Parser.Runs.exists_statement_accesses {}
    ⟨(Cursor.ofString text).pos, (Cursor.ofString text).pos⟩ (l := ⟨.number value raw, s₀, n, c⟩) rfl tokens room true
    true
  have noString : ∀ t v raw, e ≠ .string t v raw := by
    obtain ⟨t, o, k, rfl⟩ : ∃ t o k, e = .member t false o k := by
      cases chain with
      | member _ _ behind => exact behind.exists_member ⟨_, _, _, rfl⟩
    exact fun _ _ _ => Expr.noConfusion
  obtain ⟨span, read⟩ := read_of_statement lexes noString statement
  exact ⟨_, (readText_of_first first).trans read, span, s, e, s₀, rfl, chain⟩

end Script

/-! ### Numbers in front of points -/

/-- Whether a run of digits is a decimal number in spite of a zero at its start. -/
def isOldDecimal (ds : List Char) : Bool :=
  ds.head? == some '0' && decide (1 < ds.length) && !ds.all isOctalDigit

variable {ds : List Char} {w : String} {ws : List String} (all : ∀ d ∈ ds, d.isDigit = true) (some : ds ≠ [])
  (valid : ∀ v ∈ w :: ws, Identifier.fault? v = none)

include all in
/-- The printer puts a second point behind digits that do not start with a needless zero. -/
theorem needsSecondPoint_digits (s : Span) (value : Float) :
    needsSecondPoint (.number s value (Option.some (String.ofList ds))) =
      !(Lexer.isOldOctal ds || isOldDecimal ds) := by
  have noBlank : ds.filter (· != '_') = ds := by
    refine List.filter_eq_self.2 fun d hd => ?_
    rw [bne_iff_ne]
    rintro rfl
    cases all _ hd
  have digits : ds.all Char.isDigit = true := List.all_eq_true.2 all
  simp only [needsSecondPoint, Option.getD_some, String.toList_ofList, noBlank, digits, Lexer.isOldOctal, isOldDecimal]
  cases ds.head? == Option.some '0' <;> cases ds.all isOctalDigit <;> simp
  all_goals exact Iff.rfl

include all some in
theorem head?_ne_hash (rest : List Char) : (ds ++ rest).head? ≠ Option.some '#' := by
  obtain ⟨d, ds, rfl⟩ := List.exists_cons_of_ne_nil some
  intro h
  rw [List.cons_append, List.head?_cons] at h
  rw [Option.some.inj h] at all
  exact absurd (all '#' List.mem_cons_self) (by decide)

include valid in
/-- The tokens of accesses in front of a semicolon. -/
theorem lexesAs_accesses {rest : List Char} (behind : LexesAs {} (';' :: rest) [.punct .semicolon]) (k : Nat) :
    LexesAs {} (List.replicate k ' ' ++ (accessText (w :: ws) ++ ';' :: rest))
      (accessTokens (w :: ws) ++ [.punct .semicolon]) := by
  obtain ⟨first, others⟩ := List.forall_mem_cons.1 valid
  obtain ⟨further, stop⟩ := behind.accesses others rfl
  simpa [accessText, accessTokens] using further.access k first stop

theorem lexesAs_semicolon : LexesAs {} [';'] [.punct .semicolon] := LexesAs.nil.punct 0 rfl rfl rfl rfl rfl

theorem lexesAs_lastLine : LexesAs {} [';', '\n'] [.punct .semicolon] := LexesAs.newline.punct 0 rfl rfl rfl rfl rfl

include all some valid

/-- Digits, a blank and accesses are a number with accesses. -/
theorem readText_spaced :
    ∃ t, Script.readText (String.ofList (ds ++ ' ' :: (accessText (w :: ws) ++ [';']))) = .ok t ∧
      t.IsNumberAccess (Lexer.wholeValue ds) (String.ofList ds) (w :: ws) := by
  refine Script.readText_of_lexesAs ?_ ?_
  · rw [String.toList_ofList]
    exact head?_ne_hash all some _
  · rw [String.toList_ofList]
    exact (lexesAs_accesses valid lexesAs_semicolon 1).digits rfl 0 all some rfl rfl

theorem readText_printed {t : Script} (h : t.IsNumberAccess (Lexer.wholeValue ds) (String.ofList ds) (w :: ws))
    (notOld : isOldDecimal ds = false) :
    ∃ t' raw, Script.readText t.print = .ok t' ∧ t'.IsNumberAccess (Lexer.wholeValue ds) raw (w :: ws) ∧
      t'.print = t.print := by
  have accesses := lexesAs_accesses valid lexesAs_lastLine 0
  rw [List.replicate_zero, List.nil_append] at accesses
  have text := h.print
  rw [needsSecondPoint_digits all, notOld, Bool.or_false, String.toList_ofList] at text
  have first : t.print.toList.head? ≠ Option.some '#' := by
    rw [text, List.append_assoc, List.append_assoc]
    exact head?_ne_hash all some _
  -- a point behind an old octal number is that of the access; any other number takes the first one for its own
  cases octal : Lexer.isOldOctal ds with
  | true =>
    rw [octal, Bool.not_true, if_neg Bool.false_ne_true, List.append_nil, List.append_assoc] at text
    have lexes := accesses.digits rfl 0 all some rfl (by rw [octal, Bool.or_true])
    rw [List.replicate_zero, List.nil_append, ← text] at lexes
    obtain ⟨t', read, h'⟩ := Script.readText_of_lexesAs first lexes
    refine ⟨t', _, read, h', String.toList_inj.1 ?_⟩
    rw [h.print, h'.print]
  | false =>
    rw [octal, Bool.not_false, if_pos rfl] at text
    have lexes := accesses.digitsPoint rfl 0 all some rfl octal
    have shape : ds ++ ['.'] ++ accessText (w :: ws) ++ [';', '\n'] =
        ds ++ '.' :: (accessText (w :: ws) ++ [';', '\n']) := by
      simp
    rw [List.replicate_zero, List.nil_append, ← shape, ← text] at lexes
    obtain ⟨t', read, h'⟩ := Script.readText_of_lexesAs first lexes
    refine ⟨t', _, read, h', String.toList_inj.1 ?_⟩
    -- The point now belongs to the number, which needs no second one.
    have onePoint : needsSecondPoint
        (.number .dummy (Lexer.wholeValue ds) (Option.some (String.ofList (ds ++ ['.'])))) = false := by
      simp [needsSecondPoint]
    rw [h'.print, onePoint, text, String.toList_ofList]
    simp

/-- A point behind a decimal number that starts with a zero is taken for that of the number, and no name may follow. -/
theorem readText_printed_of_old {t : Script}
    (h : t.IsNumberAccess (Lexer.wholeValue ds) (String.ofList ds) (w :: ws)) (old : isOldDecimal ds = true)
    (plain : w.toList.head?.any (fun x => x == 'e' || x == 'E' || x == '_') = false) :
    Script.readText t.print = .error ⟨.nameAfterNumber, Text.byteLength (ds ++ ['.'])⟩ := by
  have decimal : Lexer.isOldOctal ds = false := by
    simp only [isOldDecimal, Bool.and_eq_true, Bool.not_eq_true'] at old
    rw [Lexer.isOldOctal, old.2, Bool.and_false]
  have text := h.print
  rw [needsSecondPoint_digits all, old, Bool.or_true, Bool.not_true, if_neg Bool.false_ne_true, String.toList_ofList,
    List.append_nil, List.append_assoc] at text
  have first : t.print.toList.head? ≠ Option.some '#' := by
    rw [text]
    exact head?_ne_hash all some _
  refine (Script.readText_of_first first).trans ?_
  obtain ⟨validFirst, others⟩ := List.forall_mem_cons.1 valid
  obtain ⟨x, xs, name, start, -⟩ := exists_cons_of_fault?_eq_none validFirst
  rw [name] at plain
  have nameStart : isNameStart x = true := by rw [isNameStart, start, Bool.true_or]
  have here : (Cursor.ofString t.print).rest = ds ++ '.' :: (w.toList ++ (accessText ws ++ [';', '\n'])) := by
    refine text.trans ?_
    simp [accessText]
  -- Behind the fault the text goes on with the name.
  obtain ⟨further, stop⟩ := lexesAs_lastLine.accesses others rfl
  obtain ⟨ls, lexes, -⟩ := (further.name 0 validFirst stop) ((Cursor.ofString t.print).skip (ds.length + 1))
    (Lexer.skip_point here)
  have offset : ((Cursor.ofString t.print).skip (ds.length + 1)).pos = Text.byteLength (ds ++ ['.']) := by
    change 0 + Text.byteLength ((Cursor.ofString t.print).rest.take (ds.length + 1)) = _
    rw [here, List.append_cons, List.take_left' (by simp), Nat.zero_add]
  have shorter : ((Cursor.ofString t.print).skip (ds.length + 1)).rest.length <
      (Cursor.ofString t.print).rest.length := by
    rw [Lexer.skip_point here, here]
    simp only [List.length_append, List.length_cons]
    omega
  obtain ⟨d, ds', rfl⟩ := List.exists_cons_of_ne_nil some
  have digit := all d List.mem_cons_self
  have starts : startsToken d = true := startsToken_of_ascii (by rw [digit, Bool.or_true])
  have fails (noted : Option Failure) := Lexer.number_eq_error (m := {}) rfl here all some decimal
    (congrArg (· ++ _) name) nameStart plain noted
  have next (noted : Option Failure) := Lexeme.next?_eq (m := {}) (k := 0) here starts noted
  simp only [Lexer.token_of_isDigit digit, Cursor.skip_zero, fails, offset, Lexeme.ofRead] at next
  exact Script.read_of_invalid (.step next shorter lexes) rfl

/-- A number literal of digits with accesses by names, read, printed and read again. The printed text is read as the
same program and printed as the same text, unless the digits are a decimal number that starts with a zero: then the
point behind them is taken for that of the number, and the first name is refused. -/
theorem number_access_reprints :
    ∃ t program, Script.readText (String.ofList (ds ++ ' ' :: (accessText (w :: ws) ++ [';']))) = .ok t ∧
      t.lower = .ok program ∧ program.IsNumberAccess (Lexer.wholeValue ds) (w :: ws) ∧
      (isOldDecimal ds = false → ∃ t' program', Script.readText t.print = .ok t' ∧ t'.body.length = t.body.length ∧
        t'.lower = .ok program' ∧ program'.IsNumberAccess (Lexer.wholeValue ds) (w :: ws) ∧ t'.print = t.print) ∧
      (isOldDecimal ds = true → w.toList.head?.any (fun x => x == 'e' || x == 'E' || x == '_') = false →
        Script.readText t.print = .error ⟨.nameAfterNumber, Text.byteLength (ds ++ ['.'])⟩) := by
  obtain ⟨t, read, h⟩ := readText_spaced all some valid
  obtain ⟨program, lowered, is⟩ := h.lower
  refine ⟨t, program, read, lowered, is, fun notOld => ?_, readText_printed_of_old all some valid h⟩
  obtain ⟨t', raw, read', h', same⟩ := readText_printed all some valid h notOld
  obtain ⟨program', lowered', is'⟩ := h'.lower
  refine ⟨t', program', read', ?_, lowered', is', same⟩
  obtain ⟨_, _, _, _, rfl, -⟩ := h
  obtain ⟨_, _, _, _, rfl, -⟩ := h'
  rfl

omit all some valid in
theorem number_access_reprints_two_digits :
    ∃ t t', Script.readText "10 .x;" = .ok t ∧ Script.readText t.print = .ok t' ∧ t'.print = t.print := by
  obtain ⟨t, program, read, -, -, same, -⟩ := @number_access_reprints ['1', '0'] "x" []
    (List.all_eq_true.1 rfl) (List.cons_ne_nil _ _) (List.forall_mem_singleton.2 (by decide))
  obtain ⟨t', _, read', -, -, -, print⟩ := same rfl
  exact ⟨t, t', read, read', print⟩

omit all some valid in
/-- The script `08 .x` compiles, but the text that it is printed as does not. -/
theorem old_decimal_access_not_reprinted : ∃ t program, Script.parse "08 .x" = .ok t ∧ t.lower = .ok program ∧
    t.print = "08.x;\n" ∧ Script.parse t.print = .error (.syntaxFault "Identifier cannot follow number" 3) := by
  have source : (Script.parse "08 .x").toOption.any (fun t => t.print == "08.x;\n" && t.lower.isOk) = true := by
    decide +kernel
  have refused : (Script.parse "08.x;\n").map (fun _ => ()) =
      .error (.syntaxFault "Identifier cannot follow number" 3) := by
    decide +kernel
  cases parsed : Script.parse "08 .x" with
  | error => simp [parsed, Except.toOption] at source
  | ok t =>
    simp only [parsed, Except.toOption, Option.any_some, Bool.and_eq_true, beq_iff_eq] at source
    obtain ⟨printed, lowers⟩ := source
    cases lowered : t.lower with
    | error => simp [lowered, Except.isOk, Except.toBool] at lowers
    | ok program =>
      refine ⟨t, program, rfl, lowered, printed, ?_⟩
      rw [printed]
      cases again : Script.parse "08.x;\n" with
      | error e =>
        rw [again] at refused
        cases refused
        rfl
      | ok t' =>
        rw [again] at refused
        cases refused

end Source

end ScriptCoverage
