import ScriptCoverage.Proofs.Number.Spelling
import ScriptCoverage.Proofs.Source.Numbers
import ScriptCoverage.Proofs.Text.Literal

/-!
How strings are read, and in particular the printed ones. `Spells` relates the text between two quotes to the value
that it stands for, one piece of the text at a time: a plain character, or an escape that the lexer reads. Main
statements: `Lexer.reads_string` — a text that spells a value is read as this value — `Lexer.spells_literalBody` — the
printed body of a text spells it, with the open escapes for halves of pairs closed — and `LexesAs.literal`.
-/

namespace ScriptCoverage.Source

namespace Lexer

section Escapes

variable {m : Mode} {c c' : Cursor} {rest : List Char}

/-! ### Escapes -/

theorem Reads.reportedAt {α : Type} {p : Lexer α} {a : α} (h : Reads m p c a c') (offset : Nat) :
    Reads m (reportedAt offset p) c a c' := by
  have attempted : Reads m (attempt p) c (.ok a) c' := by
    intro noted
    rw [attempt, h noted]
  exact attempted.bind (reads_pure.2 ⟨rfl, rfl⟩)

theorem reads_escape_char {e : Char} (here : c.rest = '\\' :: e :: rest) (notUnicode : e ≠ 'u')
    (notControl : controlChar? e = none) (notLine : isLineEnd e = false) (notHex : e ≠ 'x')
    (notOctal : isOctalDigit e = false) : Reads m (escape false) c [e] (c.skip 2) := by
  have notReturn : e ≠ '\r' := by
    rintro rfl
    cases notLine
  unfold escape
  simp [here, notControl, notLine, notHex, notOctal, notReturn]

theorem reads_escape_control {e d : Char} (here : c.rest = '\\' :: e :: rest) (control : controlChar? e = some d) :
    Reads m (escape false) c [d] (c.skip 2) := by
  have notUnicode : e ≠ 'u' := by
    rintro rfl
    cases control
  unfold escape
  simp [here, control]

theorem reads_escape_zero (here : c.rest = '\\' :: '0' :: rest) (stop : rest.head?.any isOctalDigit = false) :
    Reads m (escape false) c ['\x00'] (c.skip 2) := by
  unfold escape octalEscape
  simp [here, controlChar?, isLineEnd, stop, show isOctalDigit '0' = true from rfl]

/-- An escape with `u` is read as what is behind its backslash. -/
theorem Reads.escape_unicode {cs : List Char} (here : c.rest = '\\' :: 'u' :: rest)
    (body : Reads m unicodeEscape (c.skip 1) cs c') : Reads m (escape false) c cs c' := by
  unfold escape
  rw [reads_pos_bind, reads_skip_bind, reads_rest_bind, Cursor.rest_skip, here]
  exact body.reportedAt _

theorem reads_escape_hex {ds : List Char} (here : c.rest = '\\' :: 'x' :: ds ++ rest)
    (h : ∀ d ∈ ds, isDigitOf 16 d = true) (two : ds.length = 2) :
    Reads m (escape false) c [Char.ofNat (digitsValue 16 ds)] (c.skip 4) := by
  have after : (c.skip 2).rest = ds ++ rest := by
    rw [Cursor.rest_skip, here]
    rfl
  have digits := reads_digitsUpTo (m := m) after h
  rw [two, Cursor.skip_skip] at digits
  have taken : Reads m (do
      let ds ← digitsUpTo 16 2
      if ds.length < 2 then failAt c.pos (.escapeDigitsExpected "2 hex characters")
      return [Char.ofNat (digitsValue 16 ds)]) (c.skip 2) [Char.ofNat (digitsValue 16 ds)] (c.skip 4) := by
    refine digits.bind ?_
    simp [two]
  unfold escape
  simpa [here, controlChar?, isLineEnd] using taken

/-- Four digits behind `u` stand for one character, unless they are the code of half of a pair. -/
theorem reads_escape_unicode {ds : List Char} (here : c.rest = '\\' :: 'u' :: ds ++ rest)
    (h : ∀ d ∈ ds, isDigitOf 16 d = true) (four : ds.length = 4) :
    Reads m (escape false) c
      (if isSurrogate (digitsValue 16 ds) then '\\' :: 'u' :: ds else [Char.ofNat (digitsValue 16 ds)]) (c.skip 6) := by
  have after : (c.skip 2).rest = ds ++ rest := by
    rw [Cursor.rest_skip, here]
    rfl
  have noBrace : (ds ++ rest).head? ≠ some '\x7b' := by
    intro first
    cases ds with
    | nil => cases four
    | cons d ds =>
      cases first
      cases h '\x7b' List.mem_cons_self
  have digits := reads_digitsUpTo (m := m) after h
  rw [four, Cursor.skip_skip] at digits
  have body : Reads m unicodeEscape (c.skip 1)
      (if isSurrogate (digitsValue 16 ds) then '\\' :: 'u' :: ds else [Char.ofNat (digitsValue 16 ds)]) (c.skip 6) := by
    unfold unicodeEscape
    rw [reads_skip_bind, Cursor.skip_skip, reads_eat_bind, after, if_neg noBrace]
    dsimp only
    rw [if_neg Bool.false_ne_true, reads_cursor_bind]
    refine digits.bind ?_
    simp only [four]
    rw [if_neg (by decide)]
    split
    · rw [reads_moveTo_bind, reads_rest_bind, after, List.take_left' four]
      simp [four]
    · simp
  exact body.escape_unicode here

theorem overflowCount?_eq_none {ds : List Char} (h : ∀ d ∈ ds, isDigitOf 16 d = true) (short : ds.length ≤ 8) :
    overflowCount? ds = none := by
  refine List.find?_eq_none.2 fun k _ => ?_
  rw [decide_eq_true_eq, Nat.not_le]
  calc digitsValue 16 (ds.take k)
      < 16 ^ (ds.take k).length := digitsValue_lt fun d hd => h d (List.mem_of_mem_take hd)
    _ ≤ 16 ^ 8 := Nat.pow_le_pow_right (by decide) (by rw [List.length_take]; omega)
    _ = Nat.pow 2 32 := rfl

theorem reads_escape_braced {ds : List Char} (here : c.rest = '\\' :: 'u' :: '\x7b' :: ds ++ '\x7d' :: rest)
    (h : ∀ d ∈ ds, isDigitOf 16 d = true) (four : ds.length = 4) (half : isSurrogate (digitsValue 16 ds) = true) :
    Reads m (escape false) c ('\\' :: 'u' :: '\x7b' :: ds ++ ['\x7d']) (c.skip 8) := by
  have after : (c.skip 3).rest = ds ++ '\x7d' :: rest := by
    rw [Cursor.rest_skip, here]
    rfl
  have digits := reads_digits (m := m) after h rfl
  rw [four, Cursor.skip_skip] at digits
  have run : (digitRun 16 (digitBound 16 (c.skip 3).rest) (c.skip 3).rest).digits = ds := by
    rw [after, digitBound_append h rfl, digitRun_append h]
  have value : Reads m bracedDigits (c.skip 3) (digitsValue 16 ds) (c.skip 7) := by
    have small : ¬ 0x10ffff < digitsValue 16 ds := by
      have := digitsValue_lt h
      rw [four] at this
      omega
    unfold bracedDigits
    rw [reads_rest_bind, reads_rest_bind, run]
    dsimp only
    rw [overflowCount?_eq_none h (by omega)]
    refine digits.bind ?_
    have some : ds ≠ [] := List.ne_nil_of_length_pos (by omega)
    simp [some, small]
  have noBrace : ∀ d ∈ ds, (d != '\x7d') = true := by
    intro d hd
    rw [bne_iff_ne]
    rintro rfl
    cases h _ hd
  have kept : ((c.rest.drop 3).take 6).takeWhile (· != '\x7d') = ds := by
    rw [← Cursor.rest_skip, after, List.take_append, List.take_of_length_le (by omega),
      List.takeWhile_append_of_pos noBrace, four]
    simp
  have closing : c.rest[7]? = some '\x7d' := by
    simp [here, four]
  have body : Reads m unicodeEscape (c.skip 1) ('\\' :: 'u' :: '\x7b' :: ds ++ ['\x7d']) (c.skip 8) := by
    unfold unicodeEscape
    rw [reads_skip_bind, Cursor.skip_skip, reads_eat_bind, Cursor.rest_skip, here]
    simp only [List.cons_append, List.drop_succ_cons, List.drop_zero, List.head?_cons, ↓reduceIte, pure_bind,
      Cursor.skip_skip, reads_cursor_bind]
    refine value.bind ?_
    simp [half, kept, four, closing]
  exact body.escape_unicode here

end Escapes

/-! ### Whole numbers -/

/-- What the digits of a number start with, and what they stand for. -/
theorem toDigits_spec (n : Nat) :
    (n ≠ 0 → (Nat.toDigits 10 n).head? ≠ some '0') ∧ digitsValue 10 (Nat.toDigits 10 n) = n := by
  have digit : ∀ d < 10, Text.hexDigit? d.digitChar = some d := by decide
  have notZero : ∀ d < 10, d ≠ 0 → d.digitChar ≠ '0' := by decide
  induction n using Nat.strongRecOn with
  | _ n ih =>
    by_cases small : n < 10
    · rw [Nat.toDigits_of_lt_base small]
      refine ⟨fun pos same => notZero n small pos (Option.some.inj same), ?_⟩
      simp [digitsValue, digit n small]
    · have large : 10 ≤ n := Nat.not_lt.1 small
      obtain ⟨first, value⟩ := ih (n / 10) (by omega)
      rw [Nat.toDigits_of_base_le (by decide) large]
      constructor
      · intro _
        rw [List.head?_append_of_ne_nil _ Nat.toDigits_ne_nil]
        exact first (by omega)
      · rw [digitsValue_concat, value, digit _ (Nat.mod_lt _ (by decide)), Option.getD_some]
        omega

theorem toList_toString (n : Nat) : (toString n).toList = Nat.toDigits 10 n := by
  rw [Nat.toString_eq_repr, Nat.toList_repr]

/-- The digits of a whole number stand for it. -/
theorem wholeValue_toString {n : Nat} (h : n < 2 ^ 53) : wholeValue (toString n).toList = ofWhole n := by
  obtain ⟨first, value⟩ := toDigits_spec n
  have decimal : isOldOctal (Nat.toDigits 10 n) = false := by
    by_cases zero : n = 0
    · subst zero
      rfl
    · simp [isOldOctal, first zero]
  rw [toList_toString, wholeValue, decimal, value, if_neg Bool.false_ne_true]
  exact toFloat_natCast h

/-! ### Strings -/

/-- Whether a character of a string stands for itself. -/
def isPlainIn (quote c : Char) : Bool := c != quote && c != '\\' && c != '\n' && c != '\r'

theorem isPlainIn_eq_true {quote c : Char} :
    isPlainIn quote c = true ↔ c ≠ quote ∧ c ≠ '\\' ∧ c ≠ '\n' ∧ c ≠ '\r' := by
  simp [isPlainIn, and_assoc]

/-- What the text between quotes stands for: runs of characters that stand for themselves, and escapes between them.
The text in front of which it stands starts with the closing quote. -/
inductive Spells (m : Mode) (quote : Char) (tail : List Char) : (text value : List Char) → Prop
  | stop {run : List Char} (plain : ∀ c ∈ run, isPlainIn quote c = true) : Spells m quote tail run run
  | escape {run esc text cs value : List Char} (plain : ∀ c ∈ run, isPlainIn quote c = true)
      (read : ∀ c : Cursor, c.rest = '\\' :: esc ++ (text ++ tail) →
        Reads m (escape false) c cs (c.skip (esc.length + 1)))
      (behind : Spells m quote tail text value) :
      Spells m quote tail (run ++ '\\' :: esc ++ text) (run ++ cs ++ value)

namespace Spells

variable {m : Mode} {quote : Char} {tail text value : List Char}

theorem cons {c : Char} (plain : isPlainIn quote c = true) (h : Spells m quote tail text value) :
    Spells m quote tail (c :: text) (c :: value) := by
  cases h with
  | stop all => exact .stop (List.forall_mem_cons.2 ⟨plain, all⟩)
  | escape all read behind =>
    exact @escape m quote tail (c :: _) _ _ _ _ (List.forall_mem_cons.2 ⟨plain, all⟩) read behind

theorem escaped (h : Spells m quote tail text value) (esc cs : List Char)
    (read : ∀ c : Cursor, c.rest = '\\' :: esc ++ (text ++ tail) →
      Reads m (Lexer.escape false) c cs (c.skip (esc.length + 1))) :
    Spells m quote tail ('\\' :: esc ++ text) (cs ++ value) :=
  @escape m quote tail [] esc text cs value (fun _ hc => absurd hc List.not_mem_nil) read h

theorem letter {e : Char} (h : Spells m quote tail text value) (notUnicode : e ≠ 'u')
    (notControl : controlChar? e = none) (notLine : isLineEnd e = false) (notHex : e ≠ 'x')
    (notOctal : isOctalDigit e = false) : Spells m quote tail ('\\' :: e :: text) (e :: value) :=
  h.escaped [e] [e] fun _ here => reads_escape_char here notUnicode notControl notLine notHex notOctal

theorem control {e d : Char} (h : Spells m quote tail text value) (known : controlChar? e = some d) :
    Spells m quote tail ('\\' :: e :: text) (d :: value) :=
  h.escaped [e] [d] fun _ here => reads_escape_control here known

theorem hex (h : Spells m quote tail text value) (ds : List Char) (digits : ∀ d ∈ ds, isDigitOf 16 d = true)
    (two : ds.length = 2) :
    Spells m quote tail ('\\' :: 'x' :: ds ++ text) (Char.ofNat (digitsValue 16 ds) :: value) := by
  refine h.escaped ('x' :: ds) [_] fun c here => ?_
  rw [List.length_cons, two]
  exact reads_escape_hex here digits two

theorem unicode (h : Spells m quote tail text value) (ds : List Char) (digits : ∀ d ∈ ds, isDigitOf 16 d = true)
    (four : ds.length = 4) :
    Spells m quote tail ('\\' :: 'u' :: ds ++ text)
      ((if isSurrogate (digitsValue 16 ds) then '\\' :: 'u' :: ds else [Char.ofNat (digitsValue 16 ds)]) ++ value) := by
  refine h.escaped ('u' :: ds) _ fun c here => ?_
  rw [List.length_cons, four]
  exact reads_escape_unicode here digits four

end Spells

section Strings

variable {m : Mode} {quote : Char} {rest text value : List Char}

theorem reads_plainString {c : Cursor} {run tail : List Char} (here : c.rest = run ++ tail)
    (plain : ∀ x ∈ run, isPlainIn quote x = true) (stop : tail.head?.any (isPlainIn quote) = false) :
    Reads m (plainString quote) c run (c.skip run.length) := by
  have taken : c.rest.takeWhile (isPlainIn quote) = run := by
    rw [here, takeWhile_append_of_stop plain stop]
  exact reads_takeWhile.2 ⟨taken, congrArg (fun cs => c.skip cs.length) taken⟩

theorem isPlainIn_quote (quote : Char) : isPlainIn quote quote = false := by
  simp [isPlainIn]

/-- Characters, then the parts behind them. -/
def plainAndParts (quote : Char) (n : Nat) (read : List Char) : Lexer (List Char) := do
  let plain ← plainString quote
  stringParts quote n (plain.reverseAux read)

theorem reads_stringParts {c : Cursor} {n : Nat} {esc cs : List Char} (read : List Char)
    (here : c.rest = '\\' :: esc ++ (text ++ quote :: rest))
    (first : Reads m (escape false) c cs (c.skip (esc.length + 1)))
    (behind : ∀ (c : Cursor) (read : List Char), c.rest = text ++ quote :: rest →
      Reads m (plainAndParts quote n read) c (value.reverseAux read) (c.skip text.length)) :
    Reads m (stringParts quote (n + 1) read) c (value.reverseAux (cs.reverseAux read))
      (c.skip ('\\' :: esc ++ text).length) := by
  have after : (c.skip (esc.length + 1)).rest = text ++ quote :: rest := by
    rw [Cursor.rest_skip, here]
    simp
  have parts := behind _ (cs.reverseAux read) after
  rw [Cursor.skip_skip] at parts
  unfold stringParts
  rw [reads_rest_bind, here]
  refine first.bind ?_
  have length : ('\\' :: esc ++ text).length = esc.length + 1 + text.length := by
    rw [List.length_append, List.length_cons]
  rw [length]
  exact parts

theorem Spells.reads (notBackslash : quote ≠ '\\') (h : Spells m quote (quote :: rest) text value) {n : Nat}
    (enough : text.length ≤ n) (c : Cursor) (read : List Char) (here : c.rest = text ++ quote :: rest) :
    Reads m (plainAndParts quote n read) c (value.reverseAux read) (c.skip text.length) := by
  induction h generalizing n c read with
  | @stop run plain =>
    refine (reads_plainString here plain (isPlainIn_quote quote)).bind ?_
    have after : (c.skip run.length).rest = quote :: rest := by
      rw [Cursor.rest_skip, here, List.drop_left]
    cases n with
    | zero => simp [stringParts]
    | succ n =>
      unfold stringParts
      rw [reads_rest_bind, after]
      simp [notBackslash]
  | @escape run esc text cs value plain first behind ih =>
    have here : c.rest = run ++ '\\' :: esc ++ (text ++ quote :: rest) := by
      rw [here, List.append_assoc]
    obtain ⟨n, rfl⟩ : ∃ k, n = k + 1 := Nat.exists_eq_succ_of_ne_zero (by simp at enough; omega)
    have enough : text.length ≤ n := by
      simp at enough
      omega
    have after : (c.skip run.length).rest = '\\' :: esc ++ (text ++ quote :: rest) := by
      rw [Cursor.rest_skip, here, List.append_assoc, List.drop_left]
    rw [List.append_assoc] at here
    refine (reads_plainString here plain (by simp [isPlainIn])).bind ?_
    have parts := reads_stringParts (run.reverseAux read) after (first _ after) fun c read => ih enough c read
    rw [Cursor.skip_skip] at parts
    simpa [List.reverseAux_eq] using parts

/-- What a string has between its quotes. -/
def stringText (quote : Char) : Lexer (List Char) := do
  let plain ← plainString quote
  match ← Lexer.rest with
  | '\\' :: cs => List.reverse <$> stringParts quote (cs.length + 1) plain.reverse
  | _ => pure plain

theorem string_eq (quote : Char) : string quote = do
    let start ← cursor
    skip 1
    let cs ← stringText quote
    closeString quote start.pos
    return .string (String.ofList cs) (start.upTo (← cursor)) := by
  simp only [string, stringText, bind_assoc]
  refine bind_congr fun start => bind_congr fun _ => bind_congr fun plain => bind_congr fun behind => ?_
  split
  · rfl
  · simp only

theorem Spells.reads_stringText (notBackslash : quote ≠ '\\') (h : Spells m quote (quote :: rest) text value)
    {c : Cursor} (here : c.rest = text ++ quote :: rest) :
    Reads m (stringText quote) c value (c.skip text.length) := by
  cases h with
  | stop plain =>
    have after : (c.skip text.length).rest = quote :: rest := by
      rw [Cursor.rest_skip, here, List.drop_left]
    refine (reads_plainString here plain (isPlainIn_quote quote)).bind ?_
    rw [reads_rest_bind, after]
    split
    · next split => exact absurd (List.cons.inj split).1 notBackslash
    · exact reads_pure.2 ⟨rfl, rfl⟩
  | @escape run esc text cs value plain first behind =>
    have here : c.rest = run ++ ('\\' :: esc ++ (text ++ quote :: rest)) := by
      rw [here, List.append_assoc, List.append_assoc]
    have after : (c.skip run.length).rest = '\\' :: esc ++ (text ++ quote :: rest) := by
      rw [Cursor.rest_skip, here, List.drop_left]
    refine (reads_plainString here plain (by simp [isPlainIn])).bind ?_
    rw [reads_rest_bind, after]
    dsimp only [List.cons_append]
    have parts := reads_stringParts (n := (esc ++ (text ++ quote :: rest)).length) run.reverse after
      (first _ after) fun c read => behind.reads notBackslash (by simp; omega) c read
    have whole : (value.reverseAux (cs.reverseAux run.reverse)).reverse = run ++ cs ++ value := by
      simp [List.reverseAux_eq]
    have length : run.length + ('\\' :: esc ++ text).length = (run ++ '\\' :: esc ++ text).length := by
      simp only [List.length_append, Nat.add_assoc]
    rw [Cursor.skip_skip, length] at parts
    rw [← whole]
    exact parts.map List.reverse

theorem reads_closeString {c : Cursor} (start : Nat) (here : c.rest.head? = some quote) :
    Reads m (closeString quote start) c () (c.skip 1) := by
  unfold closeString
  rw [reads_eat_bind, if_pos here]
  simp

theorem reads_string (notBackslash : quote ≠ '\\') (h : Spells m quote (quote :: rest) text value) {c : Cursor}
    (here : c.rest = quote :: text ++ quote :: rest) :
    Reads m (string quote) c (.string (String.ofList value) (String.ofList (quote :: text ++ [quote])))
      (c.skip (text.length + 2)) := by
  have inside : (c.skip 1).rest = text ++ quote :: rest := by
    rw [Cursor.rest_skip, here]
    rfl
  have closing : ((c.skip 1).skip text.length).rest.head? = some quote := by
    rw [Cursor.rest_skip, inside, List.drop_left]
    rfl
  have stop : ((c.skip 1).skip text.length).skip 1 = c.skip (text.length + 2) := by
    rw [Cursor.skip_skip, Cursor.skip_skip, Nat.add_comm 1]
  have raw : c.upTo (c.skip (text.length + 2)) = String.ofList (quote :: text ++ [quote]) := by
    have length : text.length + 2 = (quote :: text ++ [quote]).length := by simp
    have around : quote :: text ++ quote :: rest = quote :: text ++ [quote] ++ rest := by simp
    rw [Cursor.upTo_skip, here, around, length, List.take_left]
  rw [string_eq, reads_cursor_bind, reads_skip_bind]
  refine (h.reads_stringText notBackslash inside).bind ((reads_closeString c.pos closing).bind ?_)
  rw [stop, reads_cursor_bind, raw, reads_pure]
  exact ⟨rfl, rfl⟩

end Strings

/-! ### Literals -/

section Literals

variable {m : Mode} {quote : Char} {tail text value : List Char}

/-- The quotes of literals. -/
def IsQuote (quote : Char) : Prop := quote = '"' ∨ quote = '\''

theorem isQuote_literalQuote (cs : List Char) : IsQuote (Text.literalQuote cs) := by
  unfold Text.literalQuote
  split
  · exact .inr rfl
  · exact .inl rfl

theorem literalBody_eq_drop (quote : Char) (n : Nat) (cs : List Char) :
    Text.literalBody quote n cs = Text.literalBody quote 0 (cs.drop n) := by
  induction n generalizing cs with
  | zero => rfl
  | succ n ih =>
    cases cs with
    | nil => cases n <;> rfl
    | cons c cs => exact ih cs

/-- The digits of an escape for a control character. -/
theorem hex_two {n : Nat} (h : n < 32) :
    (∀ d ∈ Text.hex 2 n, isDigitOf 16 d = true) ∧ (Text.hex 2 n).length = 2 ∧ digitsValue 16 (Text.hex 2 n) = n := by
  have all : ∀ n < 32, (Text.hex 2 n).all (isDigitOf 16) = true ∧ (Text.hex 2 n).length = 2 ∧
      digitsValue 16 (Text.hex 2 n) = n := by decide +kernel
  exact ⟨List.all_eq_true.1 (all n h).1, (all n h).2⟩

theorem Spells.literalChar (isQuote : IsQuote quote) {next : Option Char} (c : Char)
    (h : Spells m quote tail text value)
    (behindZero : next.any Char.isDigit = false → (text ++ tail).head?.any isOctalDigit = false) :
    Spells m quote tail (Text.literalChar quote next c ++ text) (c :: value) := by
  have unicode (ds : List Char) (digits : ∀ d ∈ ds, isDigitOf 16 d = true) (four : ds.length = 4)
      (whole : isSurrogate (digitsValue 16 ds) = false) :
      Spells m quote tail ('\\' :: 'u' :: ds ++ text) (Char.ofNat (digitsValue 16 ds) :: value) := by
    have spelled := h.unicode ds digits four
    rw [whole] at spelled
    exact spelled
  unfold Text.literalChar
  split
  · next same =>
    obtain rfl : c = quote := beq_iff_eq.1 same
    rcases isQuote with rfl | rfl
    · exact h.letter (by decide) rfl rfl (by decide) rfl
    · exact h.letter (by decide) rfl rfl (by decide) rfl
  · next other =>
    split
    · exact h.letter (by decide) rfl rfl (by decide) rfl
    · exact h.control rfl
    · exact h.control rfl
    · refine h.cons ?_
      rcases isQuote with rfl | rfl <;> rfl
    · exact h.control rfl
    · exact h.control rfl
    · exact h.control rfl
    · split
      · exact h.hex ['0', '0'] (List.all_eq_true.1 rfl) rfl
      · next noDigit =>
        exact h.escaped ['0'] ['\x00'] fun _ here =>
          reads_escape_zero here (behindZero (Bool.eq_false_iff.2 noDigit))
    · exact unicode (Text.hex 4 '\u2028'.toNat) (List.all_eq_true.1 rfl) rfl rfl
    · exact unicode (Text.hex 4 '\u2029'.toNat) (List.all_eq_true.1 rfl) rfl rfl
    · exact unicode ['F', 'E', 'F', 'F'] (List.all_eq_true.1 rfl) rfl rfl
    · split
      · next small =>
        obtain ⟨digits, two, same⟩ := hex_two small
        have spelled := h.hex _ digits two
        rw [same, Char.ofNat_toNat] at spelled
        exact spelled
      · next notBackslash notFeed notReturn _ _ _ _ _ _ _ _ _ =>
        have notQuote : c ≠ quote := fun same => other (beq_iff_eq.2 same)
        exact h.cons (isPlainIn_eq_true.2 ⟨notQuote, notBackslash, notFeed, notReturn⟩)

theorem eq_of_toLower_eq_d {d : Char} (h : d.toLower = 'd') : d = 'd' ∨ d = 'D' := by
  unfold Char.toLower at h
  split at h
  · right
    have sum : d.val + 32 = 100 := congrArg Char.val h
    have code : d.val = 68 := by
      rw [← UInt32.add_sub_cancel d.val 32, sum]
      rfl
    exact Char.ext code
  · exact .inl h

theorem hexDigit?_lt {c : Char} {n : Nat} (h : Text.hexDigit? c = some n) : n < 16 := by
  have zero : '0'.toNat = 48 := rfl
  have a : 'a'.toNat = 97 := rfl
  have A : 'A'.toNat = 65 := rfl
  unfold Text.hexDigit? at h
  split at h
  · next digit =>
    have bounds : 48 ≤ c.toNat ∧ c.toNat ≤ 57 := Char.isDigit_iff_toNat.1 digit
    cases h
    omega
  · split at h
    · next lower =>
      simp only [Bool.and_eq_true, decide_eq_true_eq] at lower
      have top : c.toNat ≤ 102 := lower.2
      cases h
      omega
    · split at h
      · next upper =>
        simp only [Bool.and_eq_true, decide_eq_true_eq] at upper
        have top : c.toNat ≤ 70 := upper.2
        cases h
        omega
      · cases h

/-- The digits of a half of a pair. -/
theorem half_digits {d a b c : Char} (isD : d.toLower = 'd') (isCode : Text.isHalfCode a b c = true) :
    (∀ x ∈ [d, a, b, c], isDigitOf 16 x = true) ∧ isSurrogate (digitsValue 16 [d, a, b, c]) = true := by
  have first : Text.hexDigit? d = some 13 := by
    rcases eq_of_toLower_eq_d isD with rfl | rfl <;> rfl
  simp only [Text.isHalfCode, Bool.and_eq_true, Option.any_eq_true, Option.isSome_iff_exists] at isCode
  obtain ⟨⟨⟨x, hx, large⟩, ⟨y, hy⟩⟩, z, hz⟩ := isCode
  have xLt := hexDigit?_lt hx
  have yLt := hexDigit?_lt hy
  have zLt := hexDigit?_lt hz
  constructor
  · simp [isDigitOf, first, hx, hy, hz, xLt, yLt, zLt]
  · have large : 8 ≤ x := by simpa using large
    simp [isSurrogate, digitsValue, first, hx, hy, hz]
    omega

theorem head?_literalBody (quote c : Char) (cs : List Char) :
    (Text.literalBody quote 0 (c :: cs)).head? = some '\\' ∨ (Text.literalBody quote 0 (c :: cs)).head? = some c := by
  rw [Text.literalBody]
  cases half : Text.halfEscape? (c :: cs) with
  | some kept =>
    obtain ⟨text, len⟩ := kept
    obtain ⟨d, x, y, z, -, -, ⟨rest, -, rfl, -⟩ | ⟨rest, -, rfl, -⟩⟩ := Text.halfEscape?_cases half <;> exact .inl rfl
  | none =>
    dsimp only
    unfold Text.literalChar
    split
    · exact .inl rfl
    · split
      all_goals first | exact .inl rfl | exact .inr rfl | skip
      · split <;> exact .inl rfl
      · split
        · exact .inl rfl
        · exact .inr rfl

/-- The spelling of a text stands for what is read back of it. -/
theorem spells_literalBody (isQuote : IsQuote quote) (rest cs : List Char) :
    Spells m quote (quote :: rest) (Text.literalBody quote 0 cs) (Text.readBack 0 cs) := by
  induction hn : cs.length using Nat.strongRecOn generalizing cs with
  | _ n ih =>
    cases cs with
    | nil => exact .stop fun _ hc => absurd hc List.not_mem_nil
    | cons c cs =>
      have behind (ds : List Char) (h : ds.length ≤ cs.length) :
          Spells m quote (quote :: rest) (Text.literalBody quote 0 ds) (Text.readBack 0 ds) :=
        ih ds.length (by rw [← hn]; exact Nat.lt_succ_of_le h) ds rfl
      rw [Text.literalBody, Text.readBack]
      cases half : Text.halfEscape? (c :: cs) with
      | some kept =>
        obtain ⟨text, len⟩ := kept
        obtain ⟨d, x, y, z, isD, isCode, ⟨rest, split, rfl, rfl⟩ | ⟨rest, split, rfl, rfl⟩⟩ :=
          Text.halfEscape?_cases half
        · cases split
          obtain ⟨digits, isHalf⟩ := half_digits isD isCode
          dsimp only
          rw [literalBody_eq_drop, Text.readBack_eq_drop]
          refine (behind _ (by simp; omega)).escaped ['u', '\x7b', d, x, y, z, '\x7d'] _ fun c here => ?_
          exact reads_escape_braced here digits rfl isHalf
        · cases split
          obtain ⟨digits, isHalf⟩ := half_digits isD isCode
          dsimp only
          rw [literalBody_eq_drop, Text.readBack_eq_drop]
          have spelled := (behind rest (by simp; omega)).unicode [d, x, y, z] digits rfl
          rw [isHalf] at spelled
          exact spelled
      | none =>
        refine (behind cs (Nat.le_refl _)).literalChar isQuote c fun noDigit => ?_
        cases cs with
        | nil => rcases isQuote with rfl | rfl <;> rfl
        | cons d ds =>
          have noDigit : d.isDigit = false := noDigit
          have noOctal : isOctalDigit d = false := isDigitOf_eq_false (by decide) noDigit
          rcases head?_literalBody quote d ds with first | first
          · rw [List.head?_append, first]
            rfl
          · rw [List.head?_append, first]
            exact noOctal

end Literals

end Lexer

/-- A text as a literal, behind blanks. -/
theorem LexesAs.literal {m : Mode} {rest : List Char} {ts : List Token} (behind : LexesAs m rest ts) (k : Nat)
    (s : String) :
    LexesAs m (List.replicate k ' ' ++ ((Text.literal s).toList ++ rest))
      (.string (String.ofList (Text.readBack 0 s.toList)) (Text.literal s) :: ts) := by
  have isQuote := Lexer.isQuote_literalQuote s.toList
  rw [Text.literal, String.toList_ofList]
  generalize Text.literalQuote s.toList = quote at isQuote
  have notBackslash : quote ≠ '\\' := by
    rcases isQuote with rfl | rfl <;> decide
  have start : startsToken quote = true := by
    rcases isQuote with rfl | rfl <;> rfl
  refine behind.cons k quote (Text.literalBody quote 0 s.toList ++ [quote]) start fun c here => ?_
  have isString (xs : List Char) : Lexer.token quote xs = Lexer.string quote := by
    rcases isQuote with rfl | rfl <;> rfl
  rw [isString]
  have read := Lexer.reads_string notBackslash (Lexer.spells_literalBody (m := m) isQuote rest s.toList) (c := c)
    (by rw [here]; simp)
  simpa using read

/-- A whole number behind blanks. -/
theorem LexesAs.number {m : Mode} {rest : List Char} {ts : List Token} (behind : LexesAs m rest ts)
    (sloppy : m.strict = false) (k : Nat) {n : Nat} (small : n < 2 ^ 53)
    (stop : rest.head?.any Lexer.joinsNumber = false) :
    LexesAs m (List.replicate k ' ' ++ ((toString n).toList ++ rest)) (.number (ofWhole n) (toString n) :: ts) := by
  have digits : ∀ d ∈ (toString n).toList, d.isDigit = true := by
    rw [Lexer.toList_toString]
    exact fun d hd => Nat.isDigit_of_mem_toDigits (by decide) (by decide) hd
  have some : (toString n).toList ≠ [] := by
    rw [Lexer.toList_toString]
    exact Nat.toDigits_ne_nil
  obtain ⟨noPoint, stop⟩ := Lexer.any_of_any_joinsNumber stop
  have read := behind.digits sloppy k digits some stop (by rw [bne_iff_ne.2 noPoint, Bool.true_or])
  rwa [Lexer.wholeValue_toString small, String.ofList_toList] at read

end ScriptCoverage.Source
