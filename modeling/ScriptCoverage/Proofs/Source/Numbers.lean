import Mathlib
import ScriptCoverage.Proofs.Source.Lexing

/-!
How numbers are read. A run of digits is an octal number or the whole part of a decimal one, and a point behind it
belongs to the number unless it is octal. Main statements: `Lexer.number_eq` — what is left to read behind the digits —
and from it `Lexer.reads_number`, `Lexer.reads_number_point` and `Lexer.number_eq_error` for digits alone, for digits
with a point, and for a name behind that point.
-/

namespace ScriptCoverage.Source

namespace Lexer

/-! ### Digits -/

theorem digitRun_append {radix : Nat} {ds : List Char} (h : ∀ d ∈ ds, isDigitOf radix d = true) (rest : List Char) :
    digitRun radix ds.length (ds ++ rest) = ⟨ds, ds.length, true⟩ := by
  induction ds with
  | nil => cases rest <;> rfl
  | cons d ds ih =>
    obtain ⟨hd, hds⟩ := List.forall_mem_cons.1 h
    have notBlank : (d == '_') = false := by
      rw [beq_eq_false_iff_ne]
      rintro rfl
      cases hd
    rw [List.cons_append, List.length_cons, digitRun, notBlank, hd, ih hds]
    rfl

theorem reads_digitsUpTo {radix : Nat} {m : Mode} {c : Cursor} {ds rest : List Char} (here : c.rest = ds ++ rest)
    (h : ∀ d ∈ ds, isDigitOf radix d = true) : Reads m (digitsUpTo radix ds.length) c ds (c.skip ds.length) := by
  have run := digitRun_append h rest
  simp [digitsUpTo, here, run]

/-- Whether a run of digits goes on. -/
def goesOn (radix : Nat) (rest : List Char) : Bool := rest.head?.any fun c => c == '_' || isDigitOf radix c

theorem digitBound_append {radix : Nat} {ds rest : List Char} (h : ∀ d ∈ ds, isDigitOf radix d = true)
    (stop : goesOn radix rest = false) : digitBound radix (ds ++ rest) = ds.length := by
  have all : ∀ d ∈ ds, (d == '_' || isDigitOf radix d) = true := fun d hd => by rw [h d hd, Bool.or_true]
  rw [digitBound, takeWhile_append_of_stop all stop]

theorem reads_digits {radix : Nat} {m : Mode} {c : Cursor} {ds rest : List Char} (here : c.rest = ds ++ rest)
    (h : ∀ d ∈ ds, isDigitOf radix d = true) (stop : goesOn radix rest = false) :
    Reads m (digits radix) c ds (c.skip ds.length) := by
  rw [digits, reads_rest_bind, here, digitBound_append h stop]
  exact reads_digitsUpTo here h

theorem digitsValue_concat (radix : Nat) (ds : List Char) (d : Char) :
    digitsValue radix (ds ++ [d]) = digitsValue radix ds * radix + (Text.hexDigit? d).getD 0 := by
  rw [digitsValue, List.foldl_append]
  rfl

theorem digitsValue_lt {radix : Nat} {ds : List Char} (h : ∀ d ∈ ds, isDigitOf radix d = true) :
    digitsValue radix ds < radix ^ ds.length := by
  induction ds using List.reverseRecOn with
  | nil => exact Nat.one_pos
  | append_singleton ds d ih =>
    have below := ih fun e he => h e (List.mem_append_left _ he)
    have digit : (Text.hexDigit? d).getD 0 < radix := by
      have digit := h d (by simp)
      rw [isDigitOf] at digit
      cases value : Text.hexDigit? d with
      | none => simp [value] at digit
      | some v => simpa [value] using digit
    rw [digitsValue_concat, List.length_append, List.length_singleton, Nat.pow_succ]
    calc digitsValue radix ds * radix + (Text.hexDigit? d).getD 0
        < digitsValue radix ds * radix + radix := Nat.add_lt_add_left digit _
      _ = (digitsValue radix ds + 1) * radix := (Nat.succ_mul _ _).symm
      _ ≤ radix ^ ds.length * radix := Nat.mul_le_mul_right _ below

/-! ### Numbers -/

/-- A radix up to ten has no other digits than the decimal ones. -/
theorem isDigitOf_eq_false {radix : Nat} (small : radix ≤ 10) {c : Char} (h : c.isDigit = false) :
    isDigitOf radix c = false := by
  have large (n : Nat) : (some (n + 10)).any (fun k => decide (k < radix)) = false :=
    decide_eq_false (Nat.not_lt.2 (Nat.le_add_left_of_le small))
  rw [isDigitOf, Text.hexDigit?, h, if_neg Bool.false_ne_true]
  split
  · exact large _
  · split
    · exact large _
    · rfl

theorem isDigitOf_ten (c : Char) : isDigitOf 10 c = c.isDigit := by
  cases digit : c.isDigit with
  | false => exact isDigitOf_eq_false (Nat.le_refl 10) digit
  | true =>
    have bounds : 48 ≤ c.toNat ∧ c.toNat ≤ 57 := Char.isDigit_iff_toNat.1 digit
    have small : c.toNat - 48 < 10 := by omega
    rw [isDigitOf, Text.hexDigit?, if_pos digit]
    exact decide_eq_true small

/-- Whether a character behind digits belongs to the number or spoils it. -/
def spoilsNumber (c : Char) : Bool := c.isDigit || isNameStart c

/-- Whether a character behind digits does so, or may be the point of the number. -/
def joinsNumber (c : Char) : Bool := c == '.' || spoilsNumber c

/-- Whether a run of digits is read as an octal number. -/
def isOldOctal (ds : List Char) : Bool := ds.head? == some '0' && decide (1 < ds.length) && ds.all isOctalDigit

/-- The value of a run of digits. -/
def wholeValue (ds : List Char) : Float :=
  if isOldOctal ds then ofWhole (digitsValue 8 ds) else Decimal.toFloat false ⟨digitsValue 10 ds, 0⟩

/-- Checks what is behind a number and makes it a token. -/
def closed (start : Cursor) (value : Float) : Lexer Token := do
  closeNumber
  spelled start (.number value)

section Numbers

variable {m : Mode} {c : Cursor} {ds rest : List Char}

theorem any_of_any_joinsNumber (stop : rest.head?.any joinsNumber = false) :
    rest.head? ≠ some '.' ∧ rest.head?.any spoilsNumber = false := by
  cases rest with
  | nil => exact ⟨nofun, rfl⟩
  | cons x xs =>
    obtain ⟨noPoint, no⟩ := Bool.or_eq_false_iff.1 (show (x == '.' || spoilsNumber x) = false from stop)
    refine ⟨fun h => ?_, no⟩
    rw [Option.some.inj h] at noPoint
    cases noPoint

theorem any_joinsNumber_of_ne (noPoint : rest.head? ≠ some '.') (stop : rest.head?.any spoilsNumber = false) :
    rest.head?.any joinsNumber = false := by
  cases rest with
  | nil => rfl
  | cons x xs =>
    have other : x ≠ '.' := fun h => noPoint (congrArg some h)
    exact Bool.or_eq_false_iff.2 ⟨beq_false_of_ne other, stop⟩

section Stop

variable (stop : rest.head?.any spoilsNumber = false)

include stop

theorem any_isNameStart_of_any_spoilsNumber : rest.head?.any isNameStart = false := by
  cases rest with
  | nil => rfl
  | cons x xs => exact (Bool.or_eq_false_iff.1 stop).2

theorem head?_ne_of_spoilsNumber {x : Char} (spoils : spoilsNumber x = true) : rest.head? ≠ some x := by
  intro h
  rw [h, Option.any_some, spoils] at stop
  cases stop

theorem goesOn_of_any_spoilsNumber : goesOn 10 rest = false := by
  cases rest with
  | nil => rfl
  | cons x xs =>
    have notBlank : x ≠ '_' := fun h => head?_ne_of_spoilsNumber stop (x := '_') rfl (congrArg some h)
    have noDigit : x.isDigit = false := (Bool.or_eq_false_iff.1 stop).1
    simp [goesOn, isDigitOf_ten, notBlank, noDigit]

theorem reads_exponent (here : c.rest = rest) : Reads m exponent c 0 c := by
  unfold exponent
  rw [reads_rest_bind, here]
  cases rest with
  | nil => simp
  | cons x xs =>
    have other (y : Char) (spoils : spoilsNumber y = true) : x ≠ y := fun h =>
      head?_ne_of_spoilsNumber stop spoils (congrArg some h)
    simp [other 'e' rfl, other 'E' rfl]

theorem reads_closeNumber (here : c.rest = rest) : Reads m closeNumber c () c := by
  simp [closeNumber, here, any_isNameStart_of_any_spoilsNumber stop]

theorem reads_closed (here : c.rest = rest) (start : Cursor) (value : Float) :
    Reads m (closed start value) c (.number value (start.upTo c)) c :=
  (reads_closeNumber stop here).bind fun _ => rfl

end Stop

theorem reads_noteIfStrict (sloppy : m.strict = false) (offset : Nat) (fault : SyntaxFault) :
    Reads m (noteIfStrict offset fault) c () c := by
  intro noted
  change (if m.strict = true then note offset fault else pure ()) m _ = _
  rw [sloppy]
  rfl

/-- Behind the whole digits of a decimal number that has neither point nor exponent. -/
theorem decimalRest_eq {start : Cursor} {whole : List Char} (stop : c.rest.head?.any joinsNumber = false)
    (noted : Option Failure) :
    decimalRest start whole m ⟨c, noted⟩ =
      closed start (Decimal.toFloat false ⟨digitsValue 10 whole, 0⟩) m ⟨c, noted⟩ := by
  obtain ⟨noPoint, stop⟩ := any_of_any_joinsNumber stop
  have fraction : Reads m fraction c [] c := by simp [fraction, noPoint]
  refine (bind_of_ok (fraction noted) _).trans ((bind_of_ok (reads_exponent stop rfl noted) _).trans ?_)
  rw [List.append_nil]
  rfl

/-- Behind the whole digits of a decimal number that ends with its point. -/
theorem decimalRest_eq_of_point {start : Cursor} {whole : List Char} (here : c.rest = '.' :: rest)
    (noDigits : goesOn 10 rest = false) (noExponent : rest.head?.any (fun x => x == 'e' || x == 'E') = false)
    (noted : Option Failure) :
    decimalRest start whole m ⟨c, noted⟩ =
      closed start (Decimal.toFloat false ⟨digitsValue 10 whole, 0⟩) m ⟨c.skip 1, noted⟩ := by
  have behind : (c.skip 1).rest = rest := by
    rw [Cursor.rest_skip, here]
    rfl
  have places : Reads m (digits 10) (c.skip 1) [] (c.skip 1) :=
    reads_digits (show (c.skip 1).rest = [] ++ rest from behind) nofun noDigits
  have fraction : Reads m fraction c [] (c.skip 1) := by
    unfold fraction
    rw [reads_eat_bind, here, if_pos rfl]
    exact places
  have exponent : Reads m exponent (c.skip 1) 0 (c.skip 1) := by
    unfold exponent
    rw [reads_rest_bind, behind]
    cases rest with
    | nil => simp
    | cons x xs =>
      have other : (x == 'e' || x == 'E') = false := noExponent
      simp only [Bool.or_eq_false_iff] at other
      simp [bne, other]
  refine (bind_of_ok (fraction noted) _).trans ((bind_of_ok (exponent noted) _).trans ?_)
  rw [List.append_nil]
  rfl

section Digits

variable (sloppy : m.strict = false) (here : c.rest = ds ++ rest) (all : ∀ d ∈ ds, d.isDigit = true) (some : ds ≠ [])

include here all some

theorem reads_someDigits (stop : goesOn 10 rest = false) : Reads m (someDigits 10) c ds (c.skip ds.length) := by
  have digits := reads_digits (m := m) here (fun d hd => (isDigitOf_ten d).trans (all d hd)) stop
  rw [someDigits, reads_pos_bind]
  refine digits.bind ?_
  simp [some]

variable (stop : rest.head?.any spoilsNumber = false)

include stop

/-- A number that starts with a digit has no radix mark unless its second character is one. -/
theorem number_eq_decimalNumber (noted : Option Failure) : number m ⟨c, noted⟩ = decimalNumber m ⟨c, noted⟩ := by
  -- the second character is a digit, or what stops the number; a letter of a radix mark would spoil it
  have second (x : Char) (letter : x.isDigit = false) (spoils : spoilsNumber x = true) {d : Char} {xs : List Char}
      (split : c.rest = d :: x :: xs) : False := by
    rw [here] at split
    match ds with
    | [] => exact some rfl
    | [e] =>
      cases split
      exact head?_ne_of_spoilsNumber stop spoils rfl
    | e :: y :: ds =>
      cases split
      rw [all x (by simp)] at letter
      cases letter
  unfold number
  refine (bind_of_ok (p := Lexer.rest) rfl _).trans (congrFun (congrFun ?_ m) _)
  dsimp only
  split
  · next mark xs split =>
    have noMark (x : Char) (letter : x.isDigit = false) (spoils : spoilsNumber x = true) : (mark == x) = false := by
      rw [beq_eq_false_iff_ne]
      rintro rfl
      exact second mark letter spoils split
    simp only [noMark 'x' rfl rfl, noMark 'X' rfl rfl, noMark 'o' rfl rfl, noMark 'O' rfl rfl, noMark 'b' rfl rfl,
      noMark 'B' rfl rfl, Bool.or_self, Bool.false_eq_true, if_false]
  · next xs split =>
    rw [here] at split
    match ds with
    | [] => exact absurd rfl some
    | d :: ds =>
      cases split
      exact absurd (all '.' (by simp)) (by decide)
  · rfl

include sloppy

/-- A run of digits is read as octal or as the whole digits of a decimal number. -/
theorem number_eq (noted : Option Failure) :
    number m ⟨c, noted⟩ = (if isOldOctal ds = true then closed c (ofWhole (digitsValue 8 ds)) else decimalRest c ds) m
      ⟨c.skip ds.length, noted⟩ := by
  have digits := reads_someDigits (m := m) here all some (goesOn_of_any_spoilsNumber stop)
  have behind : (c.skip ds.length).rest = rest := by
    rw [Cursor.rest_skip, here, List.drop_left]
  have notBig : (c.skip ds.length).rest.head? ≠ Option.some 'n' := behind ▸ head?_ne_of_spoilsNumber stop rfl
  have close : Reads m closeNumber (c.skip ds.length) () (c.skip ds.length) := reads_closeNumber stop behind
  have quiet (fault : SyntaxFault) := reads_noteIfStrict sloppy (c := c.skip ds.length) c.pos fault noted
  rw [number_eq_decimalNumber here all some stop]
  unfold decimalNumber
  refine (bind_of_ok (p := cursor) rfl _).trans ((bind_of_ok (digits noted) _).trans ?_)
  refine (bind_of_ok ((eat_eq 'n' _ noted).trans (if_neg notBig)) _).trans ?_
  rw [if_neg Bool.false_ne_true, isOldOctal]
  split
  · next zero =>
    rw [zero, Bool.true_and]
    split
    · refine (bind_of_ok (close noted) _).trans ((bind_of_ok (quiet _) _).trans ?_)
      exact (bind_of_ok (close noted) fun _ => spelled c (.number _)).symm
    · exact bind_of_ok (quiet _) _
  · next other =>
    rw [Bool.eq_false_iff.2 other]
    rfl

omit stop in
/-- Digits are a number if no point behind them can be that of a decimal number. -/
theorem reads_number (stop : rest.head?.any spoilsNumber = false)
    (ends : (rest.head? != Option.some '.' || isOldOctal ds) = true) :
    Reads m number c (.number (wholeValue ds) (String.ofList ds)) (c.skip ds.length) := by
  intro noted
  have behind : (c.skip ds.length).rest = rest := by
    rw [Cursor.rest_skip, here, List.drop_left]
  have raw : c.upTo (c.skip ds.length) = String.ofList ds := by
    rw [Cursor.upTo_skip, here, List.take_left]
  rw [number_eq sloppy here all some stop, wholeValue, ← raw]
  cases octal : isOldOctal ds with
  | true => exact reads_closed stop behind c _ noted
  | false =>
    rw [octal, Bool.or_false, bne_iff_ne] at ends
    refine (decimalRest_eq ?_ noted).trans (reads_closed stop behind c _ noted)
    rw [behind]
    exact any_joinsNumber_of_ne ends stop

end Digits

section Point

variable (sloppy : m.strict = false) (here : c.rest = ds ++ '.' :: rest) (all : ∀ d ∈ ds, d.isDigit = true)
  (some : ds ≠ []) (decimal : isOldOctal ds = false)

include sloppy here all some decimal

theorem number_eq_of_point (noDigits : goesOn 10 rest = false)
    (noExponent : rest.head?.any (fun x => x == 'e' || x == 'E') = false) (noted : Option Failure) :
    number m ⟨c, noted⟩ = closed c (wholeValue ds) m ⟨c.skip (ds.length + 1), noted⟩ := by
  have behind : (c.skip ds.length).rest = '.' :: rest := by
    rw [Cursor.rest_skip, here, List.drop_left]
  rw [number_eq sloppy here all some rfl, wholeValue, decimal, if_neg Bool.false_ne_true, if_neg Bool.false_ne_true,
    decimalRest_eq_of_point behind noDigits noExponent, Cursor.skip_skip]

omit sloppy all some decimal in
theorem skip_point : (c.skip (ds.length + 1)).rest = rest := by
  rw [Cursor.rest_skip, here, List.append_cons, List.drop_left' (by simp)]

omit sloppy all some decimal in
theorem upTo_point : c.upTo (c.skip (ds.length + 1)) = String.ofList (ds ++ ['.']) := by
  rw [Cursor.upTo_skip, here, List.append_cons, List.take_left' (by simp)]

/-- A decimal number may end with its point. -/
theorem reads_number_point (stop : rest.head?.any spoilsNumber = false) :
    Reads m number c (.number (wholeValue ds) (String.ofList (ds ++ ['.']))) (c.skip (ds ++ ['.']).length) := by
  intro noted
  have noExponent : rest.head?.any (fun x => x == 'e' || x == 'E') = false := by
    cases rest with
    | nil => rfl
    | cons x xs =>
      have other (y : Char) (spoils : spoilsNumber y = true) : x ≠ y := fun h =>
        head?_ne_of_spoilsNumber stop spoils (congrArg Option.some h)
      exact Bool.or_eq_false_iff.2 ⟨beq_false_of_ne (other 'e' rfl), beq_false_of_ne (other 'E' rfl)⟩
  rw [number_eq_of_point sloppy here all some decimal (goesOn_of_any_spoilsNumber stop) noExponent, List.length_append,
    List.length_singleton, ← upTo_point here]
  exact reads_closed stop (skip_point here) c _ noted

/-- No name follows the point of a decimal number. -/
theorem number_eq_error {x : Char} {xs : List Char} (name : rest = x :: xs) (start : isNameStart x = true)
    (plain : (x == 'e' || x == 'E' || x == '_') = false) (noted : Option Failure) :
    number m ⟨c, noted⟩ =
      .error ⟨.nameAfterNumber, (c.skip (ds.length + 1)).pos⟩ ⟨c.skip (ds.length + 1), noted⟩ := by
  subst name
  obtain ⟨noExponent, noBlank⟩ := Bool.or_eq_false_iff.1 plain
  have noDigit : x.isDigit = false := by
    refine Bool.eq_false_iff.2 fun digit => ?_
    rw [isNameStart_of_isDigit digit] at start
    cases start
  have noDigits : goesOn 10 (x :: xs) = false :=
    Bool.or_eq_false_iff.2 ⟨noBlank, (isDigitOf_ten x).trans noDigit⟩
  have fails : closeNumber m ⟨c.skip (ds.length + 1), noted⟩ =
      .error ⟨.nameAfterNumber, (c.skip (ds.length + 1)).pos⟩ ⟨c.skip (ds.length + 1), noted⟩ := by
    unfold closeNumber
    refine (bind_of_ok (p := Lexer.rest) rfl _).trans ?_
    dsimp only
    rw [skip_point here, List.head?_cons, Option.any_some, if_pos start]
    rfl
  rw [number_eq_of_point sloppy here all some decimal noDigits noExponent, closed]
  change EStateM.bind (closeNumber m) _ _ = _
  rw [EStateM.bind, fails]

end Point

end Numbers

end Lexer

namespace LexesAs

variable {m : Mode} {rest : List Char} {ts : List Token} (behind : LexesAs m rest ts) (sloppy : m.strict = false)
  (k : Nat) {ds : List Char} (all : ∀ d ∈ ds, d.isDigit = true) (some : ds ≠ [])
  (stop : rest.head?.any Lexer.spoilsNumber = false)

include behind sloppy all some stop

/-- Digits behind blanks. -/
theorem digits (ends : (rest.head? != Option.some '.' || Lexer.isOldOctal ds) = true) :
    LexesAs m (List.replicate k ' ' ++ (ds ++ rest)) (.number (Lexer.wholeValue ds) (String.ofList ds) :: ts) := by
  obtain ⟨d, ds, rfl⟩ := List.exists_cons_of_ne_nil some
  have digit := all d List.mem_cons_self
  refine behind.cons k d ds (startsToken_of_ascii (by rw [digit, Bool.or_true])) fun c here => ?_
  rw [Lexer.token_of_isDigit digit]
  exact Lexer.reads_number sloppy here all some stop ends

/-- Digits and a point behind blanks. -/
theorem digitsPoint (decimal : Lexer.isOldOctal ds = false) :
    LexesAs m (List.replicate k ' ' ++ (ds ++ '.' :: rest))
      (.number (Lexer.wholeValue ds) (String.ofList (ds ++ ['.'])) :: ts) := by
  obtain ⟨d, ds, rfl⟩ := List.exists_cons_of_ne_nil some
  have digit := all d List.mem_cons_self
  have text : d :: ds ++ '.' :: rest = d :: (ds ++ ['.']) ++ rest := by simp
  rw [text]
  refine behind.cons k d (ds ++ ['.']) (startsToken_of_ascii (by rw [digit, Bool.or_true])) fun c here => ?_
  rw [Lexer.token_of_isDigit digit]
  exact Lexer.reads_number_point sloppy (here.trans text.symm) all some decimal stop

end LexesAs

end ScriptCoverage.Source
