import ScriptCoverage.Text.Quoted

/-!
What is lost when a text is spelled as a literal. The printer keeps an escape for half of a pair as it stands in the
text, and puts a brace where one in braces should end, whatever stands there. Main statement:
`readBack_eq_self_iff` — the spelling of a text is read back as the text iff all such escapes in it are closed.
-/

namespace ScriptCoverage.Text

/-- What the spelling of a text behind its first `skipped` characters stands for. -/
def readBack : (skipped : Nat) → List Char → List Char
  | _, [] => []
  | n + 1, _ :: cs => readBack n cs
  | 0, c :: cs =>
    match halfEscape? (c :: cs) with
    | some (text, len) => text ++ readBack (len - 1) cs
    | none => c :: readBack 0 cs

/-- Whether a text starts with an escape in braces for half of a pair that no brace closes. -/
def startsUnclosed : List Char → Bool
  | '\\' :: 'u' :: '\x7b' :: d :: a :: b :: c :: cs =>
    d.toLower == 'd' && isHalfCode a b c && cs.head? != some '\x7d'
  | _ => false

/-- Whether all escapes in braces for halves of pairs are closed. -/
def closesHalves : List Char → Bool
  | [] => true
  | c :: cs => !startsUnclosed (c :: cs) && closesHalves cs

theorem readBack_eq_drop (n : Nat) (cs : List Char) : readBack n cs = readBack 0 (cs.drop n) := by
  induction n generalizing cs with
  | zero => rfl
  | succ n ih =>
    cases cs with
    | nil => cases n <;> rfl
    | cons c cs => exact ih cs

/-! ### Escapes for halves -/

/-- The two forms of an escape for half of a pair. -/
theorem halfEscape?_cases {cs text : List Char} {len : Nat} (h : halfEscape? cs = some (text, len)) :
    ∃ d a b c, d.toLower = 'd' ∧ isHalfCode a b c = true ∧
      ((∃ rest, cs = '\\' :: 'u' :: '\x7b' :: d :: a :: b :: c :: rest ∧
          text = ['\\', 'u', '\x7b', d, a, b, c, '\x7d'] ∧ len = 8) ∨
        ∃ rest, cs = '\\' :: 'u' :: d :: a :: b :: c :: rest ∧ text = ['\\', 'u', d, a, b, c] ∧ len = 6) := by
  unfold halfEscape? at h
  split at h
  · next d a b c rest =>
    split at h
    · next half =>
      simp only [Bool.and_eq_true, beq_iff_eq] at half
      cases h
      exact ⟨d, a, b, c, half.1, half.2, .inl ⟨rest, rfl, rfl, rfl⟩⟩
    · cases h
  · next d a b c rest _ =>
    split at h
    · next half =>
      simp only [Bool.and_eq_true, beq_iff_eq] at half
      cases h
      exact ⟨d, a, b, c, half.1, half.2, .inr ⟨rest, rfl, rfl, rfl⟩⟩
    · cases h
  · cases h

theorem ne_backslash_of_toLower {d : Char} (h : d.toLower = 'd') : d ≠ '\\' := by
  rintro rfl
  revert h
  decide

/-- The characters of a code are no backslashes. -/
theorem ne_backslash_of_isHalfCode {a b c : Char} (h : isHalfCode a b c = true) : a ≠ '\\' ∧ b ≠ '\\' ∧ c ≠ '\\' := by
  simp only [isHalfCode, Bool.and_eq_true] at h
  refine ⟨?_, ?_, ?_⟩ <;> rintro rfl
  · exact absurd h.1.1 (by decide)
  · exact absurd h.1.2 (by decide)
  · exact absurd h.2 (by decide)

theorem startsUnclosed_of_ne {c : Char} (h : c ≠ '\\') (cs : List Char) : startsUnclosed (c :: cs) = false := by
  unfold startsUnclosed
  split
  · next same => exact absurd (List.cons.inj same).1 h
  · rfl

/-- Characters that are no backslashes open nothing. -/
theorem closesHalves_of_ne {c : Char} (h : c ≠ '\\') (cs : List Char) : closesHalves (c :: cs) = closesHalves cs := by
  rw [closesHalves, startsUnclosed_of_ne h]
  rfl

/-- Where nothing is kept, nothing is unclosed. -/
theorem startsUnclosed_of_halfEscape?_none {cs : List Char} (h : halfEscape? cs = none) :
    startsUnclosed cs = false := by
  unfold startsUnclosed
  split
  · next d a b c rest =>
    rw [halfEscape?] at h
    split at h
    · cases h
    · next no =>
      rw [Bool.eq_false_iff.2 no]
      rfl
  · rfl

/-- The characters of an escape open nothing but at its backslash. -/
theorem closesHalves_code {d a b c : Char} (isD : d.toLower = 'd') (isCode : isHalfCode a b c = true) (cs : List Char) :
    closesHalves (d :: a :: b :: c :: cs) = closesHalves cs := by
  obtain ⟨ha, hb, hc⟩ := ne_backslash_of_isHalfCode isCode
  rw [closesHalves_of_ne (ne_backslash_of_toLower isD), closesHalves_of_ne ha, closesHalves_of_ne hb,
    closesHalves_of_ne hc]

theorem closesHalves_braced {d a b c : Char} (isD : d.toLower = 'd') (isCode : isHalfCode a b c = true)
    (cs : List Char) :
    closesHalves ('\\' :: 'u' :: '\x7b' :: d :: a :: b :: c :: cs) = (cs.head? == some '\x7d' && closesHalves cs) := by
  rw [closesHalves, startsUnclosed, closesHalves_of_ne (by decide), closesHalves_of_ne (by decide),
    closesHalves_code isD isCode, isD, isCode]
  cases h : cs.head? == some '\x7d' <;> simp [bne, h]

theorem closesHalves_plain {d a b c : Char} (isD : d.toLower = 'd') (isCode : isHalfCode a b c = true)
    (cs : List Char) :
    closesHalves ('\\' :: 'u' :: d :: a :: b :: c :: cs) = closesHalves cs := by
  have closed : startsUnclosed ('\\' :: 'u' :: d :: a :: b :: c :: cs) = false := by
    unfold startsUnclosed
    split
    · next same =>
      cases same
      exact absurd isD (by decide)
    · rfl
  rw [closesHalves, closed, closesHalves_of_ne (by decide), closesHalves_code isD isCode]
  rfl

/-! ### Texts that are read back -/

/-- The spelling of a text stands for the text iff every escape in braces for half of a pair is closed. -/
theorem readBack_eq_self_iff (cs : List Char) : readBack 0 cs = cs ↔ closesHalves cs = true := by
  induction hn : cs.length using Nat.strongRecOn generalizing cs with
  | _ n ih =>
    cases cs with
    | nil => exact ⟨fun _ => rfl, fun _ => rfl⟩
    | cons c cs =>
      have shorter (ds : List Char) (h : ds.length ≤ cs.length) : readBack 0 ds = ds ↔ closesHalves ds = true :=
        ih ds.length (by rw [← hn]; exact Nat.lt_succ_of_le h) ds rfl
      rw [readBack]
      cases half : halfEscape? (c :: cs) with
      | none =>
        rw [closesHalves, startsUnclosed_of_halfEscape?_none half]
        dsimp only
        rw [List.cons_inj_right, shorter cs (Nat.le_refl _)]
        rfl
      | some kept =>
        obtain ⟨text, len⟩ := kept
        obtain ⟨d, x, y, z, isD, isCode, ⟨rest, split, rfl, rfl⟩ | ⟨rest, split, rfl, rfl⟩⟩ := halfEscape?_cases half
        · cases split
          dsimp only
          rw [readBack_eq_drop, closesHalves_braced isD isCode]
          cases rest with
          | nil => simp [readBack]
          | cons e rest =>
            have rest := shorter rest (by simp; omega)
            by_cases he : e = '\x7d'
            · simp [he, rest, closesHalves_of_ne]
            · simp [he, Ne.symm he]
        · cases split
          dsimp only
          rw [readBack_eq_drop, closesHalves_plain isD isCode]
          have rest := shorter rest (by simp; omega)
          simpa using rest

end ScriptCoverage.Text
