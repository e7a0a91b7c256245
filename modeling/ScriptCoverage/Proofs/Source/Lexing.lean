import Mathlib.Data.List.Induction
import ScriptCoverage.Source.Lexeme
import ScriptCoverage.Proofs.Module.SourceText
import ScriptCoverage.Proofs.Text.Bytes

/-!
How a lexer gets on in a text. A lexer *reads* a value between two cursors if it succeeds with that value and notes
nothing, and the lexemes behind a cursor are those that it reads one after another. Texts are described from their
end: `LexesAs` says which tokens a text has wherever it stands, and each lemma on it puts one token in front. Main
statements: `Lexes.all_eq` — the lexemes are what the lexer of whole texts finds — and `LexesAs.cons`, from which the
tokens of names and punctuators follow.
-/

namespace ScriptCoverage.Source

/-! ### Cursors -/

namespace Cursor

@[simp] theorem rest_skip (c : Cursor) (n : Nat) : (c.skip n).rest = c.rest.drop n := rfl

@[simp] theorem skip_zero (c : Cursor) : c.skip 0 = c := rfl

@[simp] theorem skip_skip (c : Cursor) (n k : Nat) : (c.skip n).skip k = c.skip (n + k) := by
  simp only [skip, List.drop_drop, List.take_add, Text.byteLength_append, Nat.add_assoc]

theorem bytesPrefix_byteLength (cs ds : List Char) : bytesPrefix (Text.byteLength cs) (cs ++ ds) = cs := by
  induction cs with
  | nil => cases ds <;> rfl
  | cons c cs ih =>
    have pos : Text.byteLength (c :: cs) ≠ 0 := by
      have := c.utf8Size_pos
      rw [Text.byteLength]
      omega
    rw [List.cons_append, bytesPrefix, if_neg pos, Text.byteLength, Nat.add_sub_cancel_left, ih]

/-- The text that has been skipped. -/
theorem upTo_skip (c : Cursor) (n : Nat) : c.upTo (c.skip n) = String.ofList (c.rest.take n) := by
  have taken := bytesPrefix_byteLength (c.rest.take n) (c.rest.drop n)
  rw [List.take_append_drop] at taken
  rw [upTo, skip, Nat.add_sub_cancel_left, taken]

end Cursor

/-! ### Steps of a lexer -/

namespace Lexer

/-- Whether a lexer gets from one position to another with a result, and notes nothing. -/
def Reads {α : Type} (m : Mode) (p : Lexer α) (c : Cursor) (a : α) (c' : Cursor) : Prop :=
  ∀ noted, p m ⟨c, noted⟩ = .ok a ⟨c', noted⟩

section Steps

variable {α β : Type} {m : Mode} {c c' : Cursor} {b : β}

theorem Reads.bind {p : Lexer α} {f : α → Lexer β} {a : α} {c₁ : Cursor} (hp : Reads m p c a c₁)
    (hf : Reads m (f a) c₁ b c') : Reads m (p >>= f) c b c' :=
  fun noted => (bind_of_ok (hp noted) f).trans (hf noted)

theorem Reads.map {p : Lexer α} {a : α} (f : α → β) (hp : Reads m p c a c') : Reads m (f <$> p) c (f a) c' := by
  intro noted
  change EStateM.map f (p m) _ = _
  rw [EStateM.map, hp noted]

@[simp] theorem reads_pure {a : β} : Reads m (pure a) c b c' ↔ a = b ∧ c = c' := by
  constructor
  · intro h
    have same : (EStateM.Result.ok a ⟨c, none⟩ : EStateM.Result Failure Scan β) = .ok b ⟨c', none⟩ := h none
    cases same
    exact ⟨rfl, rfl⟩
  · rintro ⟨rfl, rfl⟩ noted
    rfl

@[simp] theorem reads_cursor_bind {f : Cursor → Lexer β} :
    Reads m (cursor >>= f) c b c' ↔ Reads m (f c) c b c' := Iff.rfl

@[simp] theorem reads_rest_bind {f : List Char → Lexer β} :
    Reads m (rest >>= f) c b c' ↔ Reads m (f c.rest) c b c' := Iff.rfl

@[simp] theorem reads_pos_bind {f : Nat → Lexer β} : Reads m (pos >>= f) c b c' ↔ Reads m (f c.pos) c b c' := Iff.rfl

@[simp] theorem reads_map_read {f : Mode → β} : Reads m (f <$> read) c b c' ↔ f m = b ∧ c = c' :=
  reads_pure (m := m) (a := f m)

@[simp] theorem reads_moveTo_bind {d : Cursor} {f : Unit → Lexer β} :
    Reads m (moveTo d >>= f) c b c' ↔ Reads m (f ()) d b c' := Iff.rfl

@[simp] theorem reads_skip_bind {n : Nat} {f : Unit → Lexer β} :
    Reads m (skip n >>= f) c b c' ↔ Reads m (f ()) (c.skip n) b c' := Iff.rfl

@[simp] theorem reads_map_skip {n : Nat} {f : Unit → β} :
    Reads m (f <$> skip n) c b c' ↔ f () = b ∧ c.skip n = c' := by
  rw [show f <$> skip n = skip n >>= fun u => pure (f u) from (bind_pure_comp f (skip n)).symm, reads_skip_bind,
    reads_pure]

@[simp] theorem reads_takeWhile_bind {q : Char → Bool} {f : List Char → Lexer β} :
    Reads m (takeWhile q >>= f) c b c' ↔
      Reads m (f (c.rest.takeWhile q)) (c.skip (c.rest.takeWhile q).length) b c' := Iff.rfl

@[simp] theorem reads_takeWhile {q : Char → Bool} {cs : List Char} :
    Reads m (takeWhile q) c cs c' ↔ c.rest.takeWhile q = cs ∧ c.skip (c.rest.takeWhile q).length = c' := by
  rw [show takeWhile q = takeWhile q >>= pure from (bind_pure _).symm, reads_takeWhile_bind, reads_pure]

theorem eat_eq (x : Char) (c : Cursor) (noted : Option Failure) :
    eat x m ⟨c, noted⟩ = if c.rest.head? = some x then .ok true ⟨c.skip 1, noted⟩ else .ok false ⟨c, noted⟩ := by
  obtain ⟨rest, pos⟩ := c
  cases rest with
  | nil => rfl
  | cons d ds =>
    have looked : eat x m ⟨⟨d :: ds, pos⟩, noted⟩ =
        (if x == d then skip 1 >>= fun _ => pure true else pure false : Lexer Bool) m ⟨⟨d :: ds, pos⟩, noted⟩ := rfl
    rw [looked]
    by_cases same : x = d
    · subst same
      rw [if_pos (beq_self_eq_true x)]
      exact (if_pos rfl).symm
    · rw [if_neg (by simpa using same), List.head?_cons, if_neg (by simpa using Ne.symm same)]
      rfl

@[simp] theorem reads_eat_bind {x : Char} {f : Bool → Lexer β} :
    Reads m (eat x >>= f) c b c' ↔
      if c.rest.head? = some x then Reads m (f true) (c.skip 1) b c' else Reads m (f false) c b c' := by
  split
  · next next =>
    simp only [Reads, bind_of_ok ((eat_eq x c _).trans (if_pos next))]
  · next other =>
    simp only [Reads, bind_of_ok ((eat_eq x c _).trans (if_neg other))]

end Steps

/-! ### Runs of characters -/

/-- A run of characters of a class ends where a character of another class comes. -/
theorem takeWhile_append_of_stop {p : Char → Bool} {run rest : List Char} (h : ∀ x ∈ run, p x = true)
    (stop : rest.head?.any p = false) : (run ++ rest).takeWhile p = run := by
  rw [List.takeWhile_append_of_pos h]
  cases rest with
  | nil => simp
  | cons x xs =>
    have no : p x = false := stop
    simp [no]

/-- What holds of all codes below a bound holds of the characters with such a code. -/
theorem forall_of_codes {p : Char → Prop} {b : Nat} (h : ∀ n < b, p (Char.ofNat n)) {c : Char} (hc : c.toNat < b) :
    p c := by
  have holds := h c.toNat hc
  rwa [Char.ofNat_toNat] at holds

/-! ### Words and punctuators -/

section Tokens

variable {m : Mode} {c : Cursor} {x : Char} {xs rest : List Char}

theorem reads_word (here : c.rest = x :: xs ++ rest) (start : isNameStart x = true)
    (h : ∀ y ∈ x :: xs, isNamePart y = true) (stop : rest.head?.any (fun y => y == '\\' || isNamePart y) = false) :
    Reads m word c (.word (String.ofList (x :: xs)) false) (c.skip (x :: xs).length) := by
  have noPart : rest.head?.any isNamePart = false := by
    cases rest with
    | nil => rfl
    | cons y ys => exact (Bool.or_eq_false_iff.1 stop).2
  have taken : c.rest.takeWhile isNamePart = x :: xs := by
    rw [here, takeWhile_append_of_stop h noPart]
  have behind : (c.skip (x :: xs).length).rest = rest := by
    rw [Cursor.rest_skip, here, List.drop_left]
  have text : Reads m nameText c (x :: xs, false) (c.skip (x :: xs).length) := by
    unfold nameText
    rw [reads_takeWhile_bind, taken, reads_rest_bind, behind]
    split
    · cases stop
    · simp
  have noEscape : (c.rest.head? == some '\\') = false := by
    rw [here, List.cons_append, List.head?_cons, beq_eq_false_iff_ne]
    intro same
    rw [Option.some.inj same] at start
    exact absurd start (by decide)
  unfold word
  rw [reads_cursor_bind]
  refine text.bind ?_
  simp [noEscape]

theorem token_of_isNameStart (h : isNameStart x = true) : token x xs = word := by
  simp [token, h]

/-- A digit starts no name. -/
theorem isNameStart_of_isDigit (h : x.isDigit = true) : isNameStart x = false := by
  have all : ∀ n < 58, (Char.ofNat n).isDigit = true → isNameStart (Char.ofNat n) = false := by decide
  have below : x.toNat < 58 := Nat.lt_succ_of_le (Char.isDigit_iff_toNat.1 h).2
  exact forall_of_codes (p := fun c => c.isDigit = true → isNameStart c = false) all below h

theorem token_of_isDigit (h : x.isDigit = true) : token x xs = number := by
  have notName := isNameStart_of_isDigit h
  have notBackslash : x ≠ '\\' := by
    rintro rfl
    cases h
  simp [token, notName, h, notBackslash]

theorem reads_token_punct {p : Punct} {n : Nat}
    (found : punctuator? (x :: xs) = some (p, n)) (notName : (isNameStart x || x == '\\') = false)
    (notNumber : (x.isDigit || (x == '.' && xs.head?.any Char.isDigit)) = false)
    (notString : (x == '"' || x == '\'') = false) : Reads m (token x xs) c (.punct p) (c.skip n) := by
  simp [token, notName, notNumber, notString, found]

end Tokens

end Lexer

/-! ### Lexemes -/

/-- Whether a character is no blank, and starts no comment and no mark of a conflict. -/
def startsToken (x : Char) : Bool := !isSpace x && !(['/', '<', '-', '=', '>', '|', '\x00'].contains x)

theorem skipBlanks_of_startsToken {x : Char} (h : startsToken x = true) (xs : List Char) (b : Blanks) :
    skipBlanks .between (x :: xs) b = b := by
  rw [startsToken, Bool.and_eq_true] at h
  obtain ⟨noSpace, noMark⟩ := h
  have noConflict : (x == '=' || x == '<' || x == '>') = false := by simp_all
  rw [skipBlanks]
  · rw [if_neg (by simpa using noSpace), noConflict, Bool.and_false, Bool.false_and, if_neg Bool.false_ne_true]
  -- each of the other equations of the walk has one of the marks at the head
  all_goals
    intros
    simp_all

theorem skipBlanks_replicate (k : Nat) {x : Char} (h : startsToken x = true) (xs : List Char) (b : Blanks) :
    skipBlanks .between (List.replicate k ' ' ++ x :: xs) b = b.skip k := by
  induction k generalizing b with
  | zero => exact skipBlanks_of_startsToken h xs b
  | succ k ih =>
    rw [List.replicate_succ, List.cons_append, skipBlanks]
    · rw [if_pos (by decide), ih]
      simp [Blanks.skip, Blanks.behind, isLineEnd]
      omega
    all_goals
      intros
      simp_all

namespace Lexeme

/-- The lexeme between the position where blanks start and what has been read. -/
def ofRead (blanks start : Cursor) : EStateM.Result Failure Scan Token → Option Lexeme × Scan
  | .ok t s => (some ⟨t, ⟨start.pos, s.cursor.pos⟩, blanks.pos == 0, start⟩, s)
  | .error f s => (some ⟨.invalid f, ⟨start.pos, s.cursor.pos⟩, blanks.pos == 0, start⟩, s)

/-- Behind blanks the next lexeme is what is read there, or what is wrong with it. -/
theorem next?_eq {m : Mode} {c : Cursor} {k : Nat} {x : Char} {xs : List Char}
    (here : c.rest = List.replicate k ' ' ++ x :: xs) (start : startsToken x = true) (noted : Option Failure) :
    next? m ⟨c, noted⟩ = ofRead c (c.skip k) (Lexer.token x xs m ⟨c.skip k, noted⟩) := by
  have blanks := skipBlanks_replicate k start xs { newline := c.pos == 0 }
  have behind : (c.skip k).rest = x :: xs := by
    rw [Cursor.rest_skip, here, List.drop_left' (List.length_replicate ..)]
  simp only [startsToken, Bool.and_eq_true, Bool.not_eq_true', List.contains_cons, List.contains_nil,
    Bool.or_eq_false_iff] at start
  obtain ⟨-, -, -, -, -, -, noBar, noNul, -⟩ := start
  unfold next?
  dsimp only
  rw [here, blanks]
  simp only [Blanks.skip, Nat.zero_add, behind]
  split
  · next empty => cases empty
  · next nul =>
    cases nul
    cases noNul
  · next y ys _ split =>
    cases split
    simp only [noBar, Bool.false_and, Bool.false_eq_true, if_false]
    cases Lexer.token x xs m ⟨c.skip k, noted⟩ <;> rfl

theorem next?_of_reads {m : Mode} {c c' : Cursor} {k : Nat} {x : Char} {xs : List Char} {t : Token}
    (here : c.rest = List.replicate k ' ' ++ x :: xs) (start : startsToken x = true)
    (read : Lexer.Reads m (Lexer.token x xs) (c.skip k) t c') (noted : Option Failure) :
    next? m ⟨c, noted⟩ = (some ⟨t, ⟨(c.skip k).pos, c'.pos⟩, c.pos == 0, c.skip k⟩, ⟨c', noted⟩) := by
  rw [next?_eq here start, read noted]
  rfl

end Lexeme

/-- The lexemes from a position to the end of the text. -/
inductive Lexes (m : Mode) : Cursor → List Lexeme → Prop
  | stop {c c' : Cursor} (read : ∀ noted, Lexeme.next? m ⟨c, noted⟩ = (none, ⟨c', noted⟩)) (ended : c'.rest = []) :
    Lexes m c []
  | step {c c' : Cursor} {l : Lexeme} {ls : List Lexeme}
      (read : ∀ noted, Lexeme.next? m ⟨c, noted⟩ = (some l, ⟨c', noted⟩)) (shorter : c'.rest.length < c.rest.length)
      (behind : Lexes m c' ls) : Lexes m c (l :: ls)

namespace Lexes

variable {m : Mode} {c : Cursor} {ls : List Lexeme}

theorem next?_of_ended (ended : c.rest = []) (noted : Option Failure) :
    Lexeme.next? m ⟨c, noted⟩ = (none, ⟨c, noted⟩) := by
  unfold Lexeme.next?
  simp [ended, skipBlanks]

theorem length_le (h : Lexes m c ls) : ls.length ≤ c.rest.length := by
  induction h with
  | stop => exact Nat.zero_le _
  | step _ shorter _ ih => exact Nat.lt_of_le_of_lt ih shorter

end Lexes

/-- Whether a token stands for itself wherever it is: it is no quote of a template and no fault. -/
def Token.isSimple : Token → Bool
  | .punct .backquote | .invalid _ => false
  | _ => true

theorem Lexes.allFrom_eq {c : Cursor} {ls : List Lexeme} (h : Lexes {} c ls)
    (simple : ∀ l ∈ ls, l.token.isSimple = true) {frames : List Lexeme.Frame} (plain : ∀ f ∈ frames, f = .plain)
    (noted : Option Failure) {n : Nat} (enough : ls.length < n) :
    Lexeme.allFrom n false frames ⟨c, noted⟩ = ls := by
  -- no lexeme opens or ends a template, so the frames of brackets are plain all the way
  induction h generalizing frames n with
  | stop read =>
    cases n with
    | zero => cases enough
    | succ n => rw [Lexeme.allFrom, read]
  | @step c c' l ls read shorter behind ih =>
    obtain ⟨first, rest⟩ := List.forall_mem_cons.1 simple
    cases n with
    | zero => cases enough
    | succ n =>
      have enough : ls.length < n := Nat.lt_of_succ_lt_succ enough
      have fewer : ∀ f ∈ frames.drop 1, f = .plain := fun f hf => plain f (List.mem_of_mem_drop hf)
      have inText : (frames.head? == some .substitution) = false := by
        cases frames with
        | nil => rfl
        | cons f frames =>
          rw [plain f List.mem_cons_self]
          rfl
      rw [Lexeme.allFrom, read]
      dsimp only
      split
      · next bad =>
        rw [bad] at first
        cases first
      · next quote =>
        rw [quote] at first
        cases first
      · rw [ih rest (List.forall_mem_cons.2 ⟨rfl, plain⟩) enough]
      · rw [ih rest (List.forall_mem_cons.2 ⟨rfl, plain⟩) enough]
      · rw [inText, ih rest fewer enough]
      · rw [inText, ih rest fewer enough]
      · rw [ih rest plain enough]

theorem Lexes.all_eq {c : Cursor} {ls : List Lexeme} (h : Lexes {} c ls)
    (simple : ∀ l ∈ ls, l.token.isSimple = true) : Lexeme.all c = ls :=
  h.allFrom_eq simple (fun _ hf => absurd hf List.not_mem_nil) none (Nat.lt_succ_of_le h.length_le)

/-- Whether a text, up to its end, consists of tokens; no line ends between them, or in front of the first unless
the text is a whole script. -/
def LexesAs (m : Mode) (text : List Char) (ts : List Token) : Prop :=
  ∀ c : Cursor, c.rest = text → ∃ ls, Lexes m c ls ∧ ls.map Lexeme.token = ts ∧
    (∀ l ∈ ls.tail, l.newline = false) ∧ (0 < c.pos → ∀ l ∈ ls, l.newline = false)

namespace LexesAs

variable {m : Mode} {rest : List Char} {ts : List Token}

theorem nil : LexesAs m [] [] := fun _ ended =>
  ⟨[], .stop (Lexes.next?_of_ended ended) ended, rfl, nofun, fun _ => nofun⟩

/-- The end of the last line. -/
theorem newline : LexesAs m ['\n'] [] := by
  intro c here
  have read (noted : Option Failure) : Lexeme.next? m ⟨c, noted⟩ = (none, ⟨c.skip 1, noted⟩) := by
    unfold Lexeme.next?
    simp [here, skipBlanks, isSpace, isLineEnd, Blanks.behind]
  exact ⟨[], .stop read (by rw [Cursor.rest_skip, here]; rfl), rfl, nofun, fun _ => nofun⟩

/-- A token behind blanks comes before the tokens of the rest. -/
theorem cons (behind : LexesAs m rest ts) (k : Nat) (x : Char) (xs : List Char) {t : Token}
    (start : startsToken x = true)
    (read : ∀ c : Cursor, c.rest = x :: xs ++ rest →
      Lexer.Reads m (Lexer.token x (xs ++ rest)) c t (c.skip (x :: xs).length)) :
    LexesAs m (List.replicate k ' ' ++ (x :: xs ++ rest)) (t :: ts) := by
  intro c here
  have after : (c.skip k).rest = x :: xs ++ rest := by
    rw [Cursor.rest_skip, here, List.drop_left' (List.length_replicate ..)]
  have next := Lexeme.next?_of_reads here start (read _ after)
  rw [Cursor.skip_skip] at next
  have left : (c.skip (k + (x :: xs).length)).rest = rest := by
    rw [← Cursor.skip_skip, Cursor.rest_skip, after, List.drop_left]
  obtain ⟨ls, lexes, tokens, -, noLines⟩ := behind _ left
  have shorter : (c.skip (k + (x :: xs).length)).rest.length < c.rest.length := by
    rw [left, here]
    simp
    omega
  have later : 0 < (c.skip (k + (x :: xs).length)).pos := by
    have taken : (c.rest.take (k + (x :: xs).length)).length = k + (x :: xs).length := by
      rw [List.length_take, here]
      simp
    have size := Text.length_le_byteLength (c.rest.take (k + (x :: xs).length))
    have some : 0 < (x :: xs).length := Nat.succ_pos _
    rw [taken] at size
    change 0 < c.pos + Text.byteLength _
    omega
  refine ⟨_, .step next shorter lexes, by rw [List.map_cons, tokens], noLines later, fun pos => ?_⟩
  refine List.forall_mem_cons.2 ⟨?_, noLines later⟩
  exact beq_false_of_ne pos.ne'

end LexesAs

/-! ### Tokens of ASCII texts -/

section Ascii

variable {x : Char}

theorem toNat_lt_of_isStart (h : Identifier.isStart x = true) : x.toNat < 128 := by
  have cases : (((x.isUpper || x.isLower) || x == '_') || x == '$') = true := h
  simp only [Bool.or_eq_true, beq_iff_eq] at cases
  rcases cases with ((upper | lower) | rfl) | rfl
  · have between : x.val ≥ 'A'.val ∧ x.val ≤ 'Z'.val := of_decide_eq_true upper
    exact Nat.lt_of_le_of_lt between.2 (by decide)
  · have between : (decide (x.val ≥ 'a'.val) && decide (x.val ≤ 'z'.val)) = true := lower
    exact Nat.lt_of_le_of_lt (of_decide_eq_true (Bool.and_eq_true_iff.1 between).2) (by decide)
  · decide
  · decide

/-- The characters of a valid name. -/
theorem exists_cons_of_fault?_eq_none {w : String} (valid : Identifier.fault? w = none) :
    ∃ x xs, w.toList = x :: xs ∧ Identifier.isStart x = true ∧ ∀ y ∈ x :: xs, Identifier.isPart y = true := by
  cases text : w.toList with
  | nil => simp [Identifier.fault?, text] at valid
  | cons x xs =>
    have parts : ∀ y ∈ x :: xs, Identifier.isPart y = true := fun y hy =>
      Identifier.isPart_of_mem valid (text ▸ hy)
    have noDigit : x.isDigit = false := by
      rw [Identifier.fault?, text] at valid
      dsimp only at valid
      split at valid
      · cases valid
      · next no => exact Bool.eq_false_iff.2 no
    have first := parts x List.mem_cons_self
    rw [Identifier.isPart, Char.isAlphanum, noDigit, Bool.or_false] at first
    exact ⟨x, xs, rfl, first, parts⟩

/-- A character that may start a name, or that is a digit, starts a token. -/
theorem startsToken_of_ascii (h : (Identifier.isStart x || x.isDigit) = true) : startsToken x = true := by
  have all : ∀ n < 128, (Identifier.isStart (Char.ofNat n) || (Char.ofNat n).isDigit) = true →
      startsToken (Char.ofNat n) = true := by decide +kernel
  have ascii : x.toNat < 128 := by
    rcases Bool.or_eq_true_iff.1 h with start | digit
    · exact toNat_lt_of_isStart start
    · exact Nat.lt_of_le_of_lt (Char.isDigit_iff_toNat.1 digit).2 (by decide)
  exact Lexer.forall_of_codes (p := fun c => (Identifier.isStart c || c.isDigit) = true → startsToken c = true) all
    ascii h

end Ascii

namespace LexesAs

variable {m : Mode} {rest : List Char} {ts : List Token}

/-- A name behind blanks. -/
theorem name (behind : LexesAs m rest ts) (k : Nat) {w : String} (valid : Identifier.fault? w = none)
    (stop : rest.head?.any (fun y => y == '\\' || isNamePart y) = false) :
    LexesAs m (List.replicate k ' ' ++ (w.toList ++ rest)) (.word w false :: ts) := by
  obtain ⟨x, xs, text, start, parts⟩ := exists_cons_of_fault?_eq_none valid
  have starts : startsToken x = true := startsToken_of_ascii (by rw [start, Bool.true_or])
  have word := behind.cons k x xs (t := .word w false) starts fun c here => by
    have nameStart : isNameStart x = true := by rw [isNameStart, start, Bool.true_or]
    have parts : ∀ y ∈ x :: xs, isNamePart y = true := fun y hy => by rw [isNamePart, parts y hy, Bool.true_or]
    rw [Lexer.token_of_isNameStart nameStart, ← String.ofList_toList (s := w), text]
    exact Lexer.reads_word here nameStart parts stop
  rw [text]
  exact word

/-- A punctuator of one character behind blanks, which is no mark of a string, a number or a template. -/
theorem punct (behind : LexesAs m rest ts) (k : Nat) {x : Char} {p : Punct} (start : startsToken x = true)
    (found : punctuator? (x :: rest) = some (p, 1)) (notName : (isNameStart x || x == '\\') = false)
    (notNumber : (x.isDigit || (x == '.' && rest.head?.any Char.isDigit)) = false)
    (notString : (x == '"' || x == '\'') = false) :
    LexesAs m (List.replicate k ' ' ++ (x :: rest)) (.punct p :: ts) :=
  behind.cons k x [] start fun _ _ => Lexer.reads_token_punct found notName notNumber notString

end LexesAs

end ScriptCoverage.Source
