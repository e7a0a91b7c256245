import Mathlib
import ScriptCoverage.Number.Reading
import ScriptCoverage.Proofs.Number.Value

/-!
Which texts are numbers. `Numeral` is the grammar of number texts, with the digits behind `0x` left open. Main
statements: `Reading.decimal?_isSome_iff` — the greedy reader of decimal numbers accepts what the grammar says — and
`text_is_number_iff` — a text is a number iff it is, without the blanks around it, a numeral with a word of 64 bits
behind `0x`.
-/

namespace ScriptCoverage

/-! ### The grammar -/

namespace Numeral

/-- An optional sign. -/
inductive Sign : List Char → Prop
  | absent : Sign []
  | minus : Sign ['-']
  | plus : Sign ['+']

/-- Decimal digits, with a point before, between or behind them. -/
inductive Mantissa : List Char → Prop
  | whole {ds : List Char} (digits : ∀ d ∈ ds, d.isDigit) (nonempty : ds ≠ []) : Mantissa ds
  | pointed {ds fs : List Char} (digits : ∀ d ∈ ds, d.isDigit) (fraction : ∀ d ∈ fs, d.isDigit)
      (nonempty : ds ≠ [] ∨ fs ≠ []) : Mantissa (ds ++ '.' :: fs)

/-- An optional exponent. -/
inductive Exponent : List Char → Prop
  | absent : Exponent []
  | written {e : Char} {s ds : List Char} (mark : e = 'e' ∨ e = 'E') (sign : Sign s) (digits : ∀ d ∈ ds, d.isDigit)
      (nonempty : ds ≠ []) : Exponent (e :: (s ++ ds))

def IsHexDigit (c : Char) : Prop := c.isDigit ∨ ('a' ≤ c ∧ c ≤ 'f') ∨ ('A' ≤ c ∧ c ≤ 'F')

/-- One hexadecimal digit or more. -/
structure HexDigits (ds : List Char) : Prop where
  nonempty : ds ≠ []
  digits : ∀ d ∈ ds, IsHexDigit d

/-- What hexadecimal digits stand for. -/
def hexValue (ds : List Char) : Nat := Nat.ofDigits 16 (ds.reverse.map fun d => (digitIn? 16 d).getD 0)

/-- Hexadecimal digits of a word of 64 bits, with an optional plus. -/
inductive HexWord : List Char → Prop
  | digits {ds : List Char} (digits : HexDigits ds) (word : hexValue ds < 2 ^ 64) : HexWord ds
  | plus {ds : List Char} (digits : HexDigits ds) (word : hexValue ds < 2 ^ 64) : HexWord ('+' :: ds)

/-- Where such words and hexadecimal digits differ: a plus in front, or more than 64 bits. -/
inductive Stray : List Char → Prop
  | plus {ds : List Char} (digits : HexDigits ds) (word : hexValue ds < 2 ^ 64) : Stray ('+' :: ds)
  | large {ds : List Char} (digits : HexDigits ds) (large : 2 ^ 64 ≤ hexValue ds) : Stray ds

end Numeral

/-- Texts of numbers, with what may stand behind `0x`. -/
inductive Numeral (behind : List Char → Prop) : List Char → Prop
  | nothing : Numeral behind []
  | infinity {s : List Char} (sign : Numeral.Sign s) : Numeral behind (s ++ "Infinity".toList)
  | decimal {s m e : List Char} (sign : Numeral.Sign s) (mantissa : Numeral.Mantissa m)
      (exponent : Numeral.Exponent e) : Numeral behind (s ++ (m ++ e))
  | hexadecimal {x : Char} {ds : List Char} (mark : x = 'x' ∨ x = 'X') (digits : behind ds) :
      Numeral behind ('0' :: x :: ds)

/-! ### Decimal numbers -/

namespace Reading

open Numeral

variable {cs ds rest : List Char}

theorem digits_append (h : ∀ d ∈ ds, d.isDigit) (stop : rest.head?.any Char.isDigit = false) :
    digits (ds ++ rest) = (ds, rest) := by
  rw [digits, List.takeWhile_append_of_pos h, List.dropWhile_append_of_pos h]
  cases rest with
  | nil => rw [List.takeWhile_nil, List.dropWhile_nil, List.append_nil]
  | cons c rest =>
    have no : ¬ c.isDigit = true := by simpa using stop
    rw [List.takeWhile_cons_of_neg no, List.dropWhile_cons_of_neg no, List.append_nil]

theorem digits_of_all (h : ∀ d ∈ ds, d.isDigit) : digits ds = (ds, []) := by
  simpa using digits_append h (rfl : ([] : List Char).head?.any Char.isDigit = false)

theorem digits_eq_append (cs : List Char) : cs = (digits cs).1 ++ (digits cs).2 := List.takeWhile_append_dropWhile.symm

theorem isDigit_of_mem_digits (cs : List Char) : ∀ d ∈ (digits cs).1, d.isDigit := fun _ hd => List.mem_takeWhile_imp hd

theorem sign_append {s : List Char} (h : Sign s) (stop : rest.head?.any (fun c => c == '-' || c == '+') = false) :
    (sign (s ++ rest)).2 = rest := by
  cases h with
  | minus => rfl
  | plus => rfl
  | absent =>
    change (sign rest).2 = rest
    unfold sign
    split
    · cases stop
    · cases stop
    · rfl

theorem append_of_sign (cs : List Char) : ∃ s, Sign s ∧ cs = s ++ (sign cs).2 := by
  unfold sign
  split
  · exact ⟨_, .minus, rfl⟩
  · exact ⟨_, .plus, rfl⟩
  · exact ⟨_, .absent, rfl⟩

/-- A digit is no sign. -/
theorem head_of_digits (h : ∀ d ∈ ds, d.isDigit) (nonempty : ds ≠ []) (rest : List Char) :
    (ds ++ rest).head?.any (fun c => c == '-' || c == '+') = false := by
  cases ds with
  | nil => exact absurd rfl nonempty
  | cons d ds =>
    have digit := h d (.head _)
    have minus : d ≠ '-' := by rintro rfl; cases digit
    have plus : d ≠ '+' := by rintro rfl; cases digit
    simp [minus, plus]

/-! ### Parts of decimal numbers -/

theorem exponent?_cons {e : Char} (mark : e = 'e' ∨ e = 'E') (cs : List Char) :
    (exponent? (e :: cs)).map Prod.snd =
      if (digits (sign cs).2).1 = [] then none else some (digits (sign cs).2).2 := by
  have marked : (e == 'e' || e == 'E') = true := by simpa using mark
  unfold exponent?
  dsimp only
  rw [if_pos marked]
  simp only [List.isEmpty_iff]
  split <;> rfl

/-- What ends at an exponent is one. -/
theorem exponent_of_exponent? (h : (exponent? cs).map Prod.snd = some []) : Exponent cs := by
  cases cs with
  | nil => cases h
  | cons e cs =>
    by_cases mark : e = 'e' ∨ e = 'E'
    · rw [exponent?_cons mark] at h
      obtain ⟨s, sign, parts⟩ := append_of_sign cs
      have whole := digits_eq_append (Reading.sign cs).2
      split at h
      · cases h
      · next nonempty =>
        rw [Option.some.inj h, List.append_nil] at whole
        rw [parts, whole]
        exact .written mark sign (isDigit_of_mem_digits _) nonempty
    · have unmarked : ¬ (e == 'e' || e == 'E') = true := by simpa using mark
      unfold exponent? at h
      dsimp only at h
      rw [if_neg unmarked] at h
      cases h

theorem exponent?_of_exponent (h : Exponent cs) (nonempty : cs ≠ []) : (exponent? cs).map Prod.snd = some [] := by
  cases h with
  | absent => exact absurd rfl nonempty
  | @written e s ds mark sign digits some =>
    have stop := head_of_digits digits some []
    rw [List.append_nil] at stop
    rw [exponent?_cons mark, sign_append sign stop, digits_of_all digits, if_neg some]

/-- What stands behind the digits and the point at the start of a text. -/
def behindMantissa? (cs : List Char) : Option (List Char) :=
  match digits cs with
  | (whole, '.' :: rest) => if whole = [] ∧ (digits rest).1 = [] then none else some (digits rest).2
  | (whole, rest) => if whole = [] then none else some rest

theorem unsigned?_eq (cs : List Char) : (unsigned? cs).map Prod.snd =
    (behindMantissa? cs).map fun rest => ((exponent? rest).map Prod.snd).getD rest := by
  unfold unsigned? behindMantissa?
  generalize digits cs = parts
  obtain ⟨whole, rest⟩ := parts
  dsimp only
  split
  · next rest =>
    by_cases empty : whole = [] ∧ (digits rest).1 = []
    · obtain ⟨rfl, fraction⟩ := empty
      simp only [fraction, List.isEmpty_nil, Bool.and_self, if_true, and_self, Option.map_none]
    · have some : ¬ (whole.isEmpty && (digits rest).1.isEmpty) = true := by simpa using empty
      rw [if_neg some, if_neg some]
      change _ = Option.map _ (if whole = [] ∧ (digits rest).1 = [] then none else _)
      rw [if_neg empty, Option.map_some]
      cases exponent? (digits rest).2 <;> rfl
  · next _ notPoint =>
    simp only [List.isEmpty_nil, Bool.and_true, List.isEmpty_iff]
    split
    · rfl
    · rw [Option.map_some]
      cases exponent? rest <;> rfl

theorem mantissa_of_behindMantissa? (h : behindMantissa? cs = some rest) : ∃ m, Mantissa m ∧ cs = m ++ rest := by
  have whole := digits_eq_append cs
  have all := isDigit_of_mem_digits cs
  unfold behindMantissa? at h
  split at h
  · next ds behind parts =>
    rw [parts] at whole all
    split at h
    · cases h
    · next nonempty =>
      cases h
      refine ⟨ds ++ '.' :: (digits behind).1, .pointed all (isDigit_of_mem_digits behind) ?_, ?_⟩
      · exact not_and_or.1 nonempty
      · rw [List.append_assoc, List.cons_append, ← digits_eq_append]
        exact whole
  · next ds behind _ parts =>
    rw [parts] at whole all
    split at h
    · cases h
    · next nonempty =>
      cases h
      exact ⟨ds, .whole all nonempty, whole⟩

theorem behindMantissa?_of_mantissa {m e : List Char} (hm : Mantissa m) (he : Exponent e) :
    behindMantissa? (m ++ e) = some e := by
  -- the longest run of digits ends where the exponent starts, as a mark is neither a digit nor a point
  have stop : e.head?.any Char.isDigit = false := by
    cases he with
    | absent => rfl
    | written mark => rcases mark with rfl | rfl <;> rfl
  cases hm with
  | whole digits nonempty =>
    unfold behindMantissa?
    rw [digits_append digits stop]
    cases he with
    | absent => exact if_neg nonempty
    | written mark => rcases mark with rfl | rfl <;> exact if_neg nonempty
  | @pointed ds fs whole fraction nonempty =>
    unfold behindMantissa?
    rw [List.append_assoc, digits_append whole rfl]
    change (if ds = [] ∧ (digits (fs ++ e)).1 = [] then none else some (digits (fs ++ e)).2) = some e
    rw [digits_append fraction stop]
    exact if_neg (not_and_or.2 nonempty)

/-- The greedy reader of numbers without a sign accepts what the grammar says. -/
theorem unsigned?_eq_some_nil_iff :
    (unsigned? cs).map Prod.snd = some [] ↔ ∃ m e, Mantissa m ∧ Exponent e ∧ cs = m ++ e := by
  rw [unsigned?_eq, Option.map_eq_some_iff]
  constructor
  · rintro ⟨rest, behind, ends⟩
    obtain ⟨m, mantissa, rfl⟩ := mantissa_of_behindMantissa? behind
    refine ⟨m, rest, mantissa, ?_, rfl⟩
    cases read : (exponent? rest).map Prod.snd with
    | none =>
      rw [read] at ends
      obtain rfl : rest = [] := ends
      exact .absent
    | some rest' =>
      rw [read] at ends
      exact exponent_of_exponent? (read.trans (congrArg some ends))
  · rintro ⟨m, e, mantissa, exponent, rfl⟩
    refine ⟨e, behindMantissa?_of_mantissa mantissa exponent, ?_⟩
    cases e with
    | nil => rfl
    | cons c e => rw [exponent?_of_exponent exponent nofun, Option.getD_some]

/-- A mantissa starts with no sign. -/
theorem head_of_mantissa {m : List Char} (h : Mantissa m) (rest : List Char) :
    (m ++ rest).head?.any (fun c => c == '-' || c == '+') = false := by
  cases h with
  | whole digits nonempty => exact head_of_digits digits nonempty rest
  | @pointed ds fs whole _ _ =>
    cases ds with
    | nil => rfl
    | cons d ds =>
      rw [List.append_assoc]
      exact head_of_digits whole nofun _

theorem decimal?_isSome_iff :
    (decimal? cs).isSome ↔ ∃ s m e, Sign s ∧ Mantissa m ∧ Exponent e ∧ cs = s ++ (m ++ e) := by
  have read : (decimal? cs).isSome ↔ (unsigned? (sign cs).2).map Prod.snd = some [] := by
    unfold decimal?
    dsimp only
    split
    · next u h =>
      rw [h]
      exact iff_of_true rfl rfl
    · next other =>
      refine iff_of_false nofun fun h => ?_
      obtain ⟨⟨u, rest⟩, found, rfl⟩ := Option.map_eq_some_iff.1 h
      exact other u found
  rw [read, unsigned?_eq_some_nil_iff]
  constructor
  · rintro ⟨m, e, mantissa, exponent, parts⟩
    obtain ⟨s, signed, whole⟩ := append_of_sign cs
    exact ⟨s, m, e, signed, mantissa, exponent, whole.trans (congrArg (s ++ ·) parts)⟩
  · rintro ⟨s, m, e, signed, mantissa, exponent, rfl⟩
    exact ⟨m, e, mantissa, exponent, sign_append signed (head_of_mantissa mantissa e)⟩

/-! ### Hexadecimal numbers -/

theorem digitIn?_isSome_iff {c : Char} : (digitIn? 16 c).isSome ↔ IsHexDigit c := by
  have order (a b : Char) : a ≤ b ↔ a.toNat ≤ b.toNat := by rw [Char.le_def, UInt32.le_iff_toNat_le]; rfl
  have isSome (n : Nat) : (if n < 16 then some n else none).isSome ↔ n < 16 := by split <;> simp [*]
  rw [digitIn?, isSome]
  simp only [IsHexDigit, Char.isDigit_iff_toNat, Bool.and_eq_true, decide_eq_true_eq, order, Char.reduceToNat]
  generalize c.toNat = n
  split_ifs <;> omega

theorem not_hexDigits_plus (ds : List Char) : ¬ HexDigits ('+' :: ds) := fun h =>
  absurd (digitIn?_isSome_iff.2 (h.digits '+' (.head _))) (by decide)

theorem mapM_eq_some_iff {f : Char → Option Nat} {ns : List Nat} :
    ds.mapM f = some ns ↔ (∀ d ∈ ds, (f d).isSome) ∧ ds.map (fun d => (f d).getD 0) = ns := by
  induction ds generalizing ns with
  | nil => simp
  | cons d ds ih =>
    cases digit : f d with
    | none => simp [digit]
    | some n => simp [digit, Option.bind_eq_some_iff, ih]

theorem hexValue_eq_foldl (ds : List Char) :
    hexValue ds = (ds.map fun d => (digitIn? 16 d).getD 0).foldl (fun n d => 16 * n + d) 0 := by
  rw [hexValue, List.map_reverse, Nat.ofDigits_eq_foldr, List.foldr_reverse]
  simp only [Nat.cast_id, Nat.add_comm]

/-- What hexadecimal digits without a sign are read as. -/
def word? (ds : List Char) : Option Float :=
  if ds.isEmpty then none
  else (ds.mapM (digitIn? 16)).bind fun ns =>
    let n : Nat := ns.foldl (fun n d => 16 * n + d) 0
    if n < Nat.pow 2 64 then some (ofWhole n) else none

theorem hexadecimal?_eq (cs : List Char) :
    hexadecimal? cs = word? (match cs with | '+' :: ds => ds | _ => cs) := rfl

theorem word?_eq_some_iff {x : Float} :
    word? ds = some x ↔ HexDigits ds ∧ hexValue ds < 2 ^ 64 ∧ ofWhole (hexValue ds) = x := by
  unfold word?
  rw [hexValue_eq_foldl]
  split
  · next empty => exact iff_of_false nofun fun h => h.1.nonempty (List.isEmpty_iff.1 empty)
  · next nonempty =>
    rw [List.isEmpty_iff] at nonempty
    rw [Option.bind_eq_some_iff]
    simp only [mapM_eq_some_iff, digitIn?_isSome_iff, Option.ite_none_right_eq_some, Option.some_inj]
    constructor
    · rintro ⟨_, ⟨digits, rfl⟩, word, value⟩
      exact ⟨⟨nonempty, digits⟩, word, value⟩
    · rintro ⟨digits, word, value⟩
      exact ⟨_, ⟨digits.digits, rfl⟩, word, value⟩

/-- The reader of words in hexadecimal digits accepts what the grammar says. -/
theorem hexadecimal?_isSome_iff : (hexadecimal? cs).isSome ↔ HexWord cs := by
  have isSome (ds : List Char) : (word? ds).isSome ↔ HexDigits ds ∧ hexValue ds < 2 ^ 64 := by
    simp only [Option.isSome_iff_exists, word?_eq_some_iff, exists_and_left, exists_eq', and_true]
  rw [hexadecimal?_eq, isSome]
  split
  · next ds =>
    refine ⟨fun ⟨digits, word⟩ => .plus digits word, ?_⟩
    rintro (⟨digits, -⟩ | ⟨digits, word⟩)
    · exact absurd digits (not_hexDigits_plus ds)
    · exact ⟨digits, word⟩
  · next notPlus =>
    refine ⟨fun ⟨digits, word⟩ => .digits digits word, ?_⟩
    rintro (⟨digits, word⟩ | ⟨digits, word⟩)
    · exact ⟨digits, word⟩
    · exact absurd rfl (notPlus _)

theorem isNaN_of_hexadecimal? {x : Float} (h : hexadecimal? cs = some x) : x.isNaN = false := by
  rw [hexadecimal?_eq, word?_eq_some_iff] at h
  exact h.2.2 ▸ isNaN_ofWhole _

theorem isNaN_of_decimal? {x : Float} (h : decimal? cs = some x) : x.isNaN = false := by
  unfold decimal? at h
  dsimp only at h
  split at h
  · next u _ =>
    cases h
    exact Decimal.isNaN_toFloat _ _
  · cases h

end Reading

/-! ### Texts -/

open Reading Numeral

theorem numeral_iff {behind : List Char → Prop} {cs : List Char} (nonempty : cs ≠ [])
    (unmarked : ∀ x ds, x = 'x' ∨ x = 'X' → cs ≠ '0' :: x :: ds) :
    Numeral behind cs ↔ (∃ s, Sign s ∧ cs = s ++ "Infinity".toList) ∨ (decimal? cs).isSome := by
  rw [decimal?_isSome_iff]
  constructor
  · rintro (_ | sign | ⟨sign, mantissa, exponent⟩ | ⟨mark, -⟩)
    · exact absurd rfl nonempty
    · exact .inl ⟨_, sign, rfl⟩
    · exact .inr ⟨_, _, _, sign, mantissa, exponent, rfl⟩
    · exact absurd rfl (unmarked _ _ mark)
  · rintro (⟨s, sign, rfl⟩ | ⟨s, m, e, sign, mantissa, exponent, rfl⟩)
    · exact .infinity sign
    · exact .decimal sign mantissa exponent

/-- Behind a zero and an x no decimal number goes on. -/
theorem numeral_marked_iff {behind : List Char → Prop} {x : Char} {ds : List Char} (mark : x = 'x' ∨ x = 'X') :
    Numeral behind ('0' :: x :: ds) ↔ behind ds := by
  constructor
  · generalize whole : '0' :: x :: ds = cs
    rintro (_ | sign | ⟨sign, mantissa, exponent⟩ | ⟨-, digits⟩)
    · cases whole
    · cases sign <;> cases whole
    · -- the reader stops at the x, and it accepts all decimal numbers, so this is none
      have read := decimal?_isSome_iff.2 ⟨_, _, _, sign, mantissa, exponent, rfl⟩
      rw [← whole] at read
      rcases mark with rfl | rfl <;> cases read
    · cases whole
      exact digits
  · exact .hexadecimal mark

theorem isNaN_getD_notANumber {x? : Option Float} (numbers : ∀ x, x? = some x → x.isNaN = false) :
    (x?.getD notANumber).isNaN = false ↔ x?.isSome := by
  cases x? with
  | none => exact iff_of_false (by decide +kernel) nofun
  | some x => exact iff_of_true (numbers x rfl) rfl

theorem isNaN_numberOfText (s : String) : (numberOfText s).isNaN = false ↔ Numeral HexWord (Text.trim s.toList) := by
  unfold numberOfText
  split
  · next blank =>
    rw [blank]
    exact iff_of_true (by decide +kernel) .nothing
  · next ds text =>
    rw [text, numeral_marked_iff (.inl rfl), ← hexadecimal?_isSome_iff]
    exact isNaN_getD_notANumber fun _ => isNaN_of_hexadecimal?
  · next ds text =>
    rw [text, numeral_marked_iff (.inr rfl), ← hexadecimal?_isSome_iff]
    exact isNaN_getD_notANumber fun _ => isNaN_of_hexadecimal?
  · next nonempty lower upper =>
    -- neither blank nor marked: a decimal number, or infinity with or without a sign
    rw [numeral_iff nonempty (by rintro x ds (rfl | rfl); exacts [lower ds, upper ds])]
    generalize Text.trim s.toList = cs
    split
    · next positive =>
      rw [Bool.or_eq_true, beq_iff_eq, beq_iff_eq] at positive
      refine iff_of_true (by decide +kernel) (.inl ?_)
      rcases positive with rfl | rfl
      · exact ⟨[], .absent, rfl⟩
      · exact ⟨['+'], .plus, rfl⟩
    · next notPositive =>
      split
      · next negative =>
        rw [beq_iff_eq] at negative
        exact iff_of_true (by decide +kernel) (.inl ⟨['-'], .minus, negative⟩)
      · next notNegative =>
        rw [isNaN_getD_notANumber fun _ => isNaN_of_decimal?]
        refine ⟨.inr, fun h => h.resolve_left ?_⟩
        rintro ⟨s, sign, rfl⟩
        cases sign
        · exact notPositive rfl
        · exact notNegative rfl
        · exact notPositive rfl

theorem hexWord_iff_hexDigits (cs : List Char) : (HexWord cs ↔ HexDigits cs) ↔ ¬ Stray cs := by
  constructor
  · rintro same (⟨digits, word⟩ | ⟨digits, large⟩)
    · exact not_hexDigits_plus _ (same.1 (.plus digits word))
    · cases same.2 digits with
      | digits _ word => omega
      | plus => exact not_hexDigits_plus _ digits
  · intro common
    constructor
    · rintro (⟨digits, word⟩ | ⟨digits, word⟩)
      · exact digits
      · exact absurd (.plus digits word) common
    · intro digits
      exact .digits digits (not_le.1 fun large => common (.large digits large))

/-- A text is a number iff it is a numeral without the blanks around it, where words of 64 bits with an optional plus
may stand behind `0x`. Numerals with any hexadecimal digits there are the same texts except for such a plus and for
digits of more than 64 bits. -/
theorem text_is_number_iff (s : String) :
    ((numberOfText s).isNaN = false ↔ Numeral HexWord (Text.trim s.toList)) ∧
    (((numberOfText s).isNaN = false ↔ Numeral HexDigits (Text.trim s.toList)) ↔
      ¬ ∃ x ds, (x = 'x' ∨ x = 'X') ∧ Stray ds ∧ Text.trim s.toList = '0' :: x :: ds) := by
  refine ⟨isNaN_numberOfText s, ?_⟩
  rw [isNaN_numberOfText]
  generalize Text.trim s.toList = cs
  by_cases marked : ∃ x ds, (x = 'x' ∨ x = 'X') ∧ cs = '0' :: x :: ds
  · obtain ⟨x, ds, mark, rfl⟩ := marked
    rw [numeral_marked_iff mark, numeral_marked_iff mark, hexWord_iff_hexDigits, not_iff_not]
    constructor
    · intro stray
      exact ⟨x, ds, mark, stray, rfl⟩
    · rintro ⟨_, _, -, stray, same⟩
      cases same
      exact stray
  · have unmarked : ∀ x ds, x = 'x' ∨ x = 'X' → cs ≠ '0' :: x :: ds := fun x ds mark same => marked ⟨x, ds, mark, same⟩
    refine iff_of_true ?_ fun ⟨x, ds, mark, _, same⟩ => unmarked x ds mark same
    by_cases nonempty : cs = []
    · subst nonempty
      exact iff_of_true .nothing .nothing
    · rw [numeral_iff nonempty unmarked, numeral_iff nonempty unmarked]

/-- A plus behind `0x` is no part of a numeral with hexadecimal digits, and more than 64 bits are one. -/
theorem stray_words :
    (numberOfText "0x+1").isNaN = false ∧ ¬ Numeral HexDigits (Text.trim "0x+1".toList) ∧
    (numberOfText "0x10000000000000000").isNaN = true ∧
      Numeral HexDigits (Text.trim "0x10000000000000000".toList) := by
  have plus : Text.trim "0x+1".toList = '0' :: 'x' :: '+' :: ['1'] := by decide +kernel
  have large : Text.trim "0x10000000000000000".toList = '0' :: 'x' :: '1' :: List.replicate 16 '0' := by decide +kernel
  rw [plus, large, numeral_marked_iff (.inl rfl), numeral_marked_iff (.inl rfl)]
  refine ⟨by decide +kernel, not_hexDigits_plus _, by decide +kernel, nofun, ?_⟩
  rintro d (_ | ⟨_, hd⟩)
  · exact .inl rfl
  · rw [List.eq_of_mem_replicate hd]
    exact .inl rfl

end ScriptCoverage
