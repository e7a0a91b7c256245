import ScriptCoverage.Text.Cut
import ScriptCoverage.Text.Units

/-!
Where a text occurs in another one. A search finds the first place (`findIn?_eq_some`, `before?_eq_some`) or there is none
(`findIn?_eq_none`, `before?_eq_none`), and the parts between places, put together again, are the text
(`intercalate_splitBy`).
-/

namespace ScriptCoverage.Text

variable {α : Type}

/-- Whether a list occurs in another one at a position, which may be the end. -/
def OccursAt (x us : List α) (i : Nat) : Prop := i ≤ us.length ∧ x <+: us.drop i

theorem occursAt_zero {x us : List α} : OccursAt x us 0 ↔ x <+: us := by
  rw [OccursAt, List.drop_zero]
  exact and_iff_right (Nat.zero_le _)

theorem occursAt_succ {x us : List α} {u : α} {i : Nat} : OccursAt x (u :: us) (i + 1) ↔ OccursAt x us i := by
  rw [OccursAt, OccursAt, List.length_cons, List.drop_succ_cons, Nat.add_le_add_iff_right]

theorem occursAt_nil {us : List α} {i : Nat} (h : i ≤ us.length) : OccursAt [] us i := ⟨h, List.nil_prefix⟩

/-- A list that another one does not start with occurs further on in it. -/
theorem OccursAt.exists_succ {x us : List α} {u : α} {i : Nat} (h : OccursAt x (u :: us) i) (not : ¬ x <+: u :: us) :
    ∃ j, i = j + 1 ∧ OccursAt x us j := by
  cases i with
  | zero => exact absurd (occursAt_zero.1 h) not
  | succ j => exact ⟨j, rfl, occursAt_succ.1 h⟩

/-! ### Positions -/

theorem findIn?_zero_cons [BEq α] (x : List α) (u : α) (us : List α) :
    findIn? x (u :: us) 0 = if x.isPrefixOf (u :: us) then some 0 else (findIn? x us 0).map (· + 1) := rfl

theorem findIn?_zero_nil [BEq α] (x : List α) : findIn? x [] 0 = if x.isPrefixOf [] then some 0 else none := rfl

theorem findIn?_succ_cons [BEq α] (x : List α) (u : α) (us : List α) (start : Nat) :
    findIn? x (u :: us) (start + 1) = (findIn? x us start).map (· + 1) := rfl

section

variable [BEq α] [LawfulBEq α] {x us : List α} {start i : Nat} (inside : start ≤ us.length)

include inside

/-- A search that starts inside of a list finds the first place from there on. -/
theorem findIn?_eq_some (h : findIn? x us start = some i) :
    start ≤ i ∧ OccursAt x us i ∧ ∀ j, start ≤ j → j < i → ¬ OccursAt x us j := by
  induction us generalizing start i with
  | nil =>
    obtain rfl := Nat.le_zero.1 inside
    rw [findIn?_zero_nil] at h
    split at h
    · next here =>
      cases h
      exact ⟨Nat.le_refl _, occursAt_zero.2 (List.isPrefixOf_iff_prefix.1 here), nofun⟩
    · cases h
  | cons u us ih =>
    cases start with
    -- the text starts here, or the search goes on behind the first unit
    | zero =>
      rw [findIn?_zero_cons] at h
      split at h
      · next here =>
        cases h
        exact ⟨Nat.le_refl _, occursAt_zero.2 (List.isPrefixOf_iff_prefix.1 here), nofun⟩
      · next not =>
        rw [List.isPrefixOf_iff_prefix] at not
        obtain ⟨k, found, rfl⟩ := Option.map_eq_some_iff.1 h
        obtain ⟨-, occurs, first⟩ := ih (Nat.zero_le _) found
        refine ⟨Nat.zero_le _, occursAt_succ.2 occurs, fun j _ lt earlier => ?_⟩
        obtain ⟨j, rfl, inner⟩ := earlier.exists_succ not
        exact first j (Nat.zero_le j) (Nat.lt_of_succ_lt_succ lt) inner
    | succ start =>
      rw [findIn?_succ_cons] at h
      obtain ⟨k, found, rfl⟩ := Option.map_eq_some_iff.1 h
      obtain ⟨le, occurs, first⟩ := ih (Nat.le_of_succ_le_succ inside) found
      refine ⟨Nat.succ_le_succ le, occursAt_succ.2 occurs, fun j behind lt earlier => ?_⟩
      cases j with
      | zero => exact absurd behind (Nat.not_succ_le_zero _)
      | succ j => exact first j (Nat.le_of_succ_le_succ behind) (Nat.lt_of_succ_lt_succ lt) (occursAt_succ.1 earlier)

theorem findIn?_eq_none (h : findIn? x us start = none) (le : start ≤ i) : ¬ OccursAt x us i := by
  induction us generalizing start i with
  | nil =>
    obtain rfl := Nat.le_zero.1 inside
    rw [findIn?_zero_nil] at h
    split at h
    · cases h
    · next not =>
      rw [List.isPrefixOf_iff_prefix] at not
      rintro ⟨-, occurs⟩
      rw [List.drop_nil] at occurs
      exact not occurs
  | cons u us ih =>
    cases start with
    | zero =>
      rw [findIn?_zero_cons] at h
      split at h
      · cases h
      · next not =>
        rw [List.isPrefixOf_iff_prefix] at not
        intro occurs
        obtain ⟨i, rfl, inner⟩ := occurs.exists_succ not
        exact ih (Nat.zero_le _) (Option.map_eq_none_iff.1 h) (Nat.zero_le i) inner
    | succ start =>
      rw [findIn?_succ_cons] at h
      cases i with
      | zero => exact absurd le (Nat.not_succ_le_zero _)
      | succ i =>
        intro occurs
        exact ih (Nat.le_of_succ_le_succ inside) (Option.map_eq_none_iff.1 h) (Nat.le_of_succ_le_succ le)
          (occursAt_succ.1 occurs)

/-- The empty list occurs at every place, so a search for it ends where it starts. -/
theorem findIn?_nil : findIn? [] us start = some start := by
  cases place : findIn? [] us start with
  | none => exact absurd (occursAt_nil inside) (findIn?_eq_none inside place (Nat.le_refl _))
  | some i =>
    obtain ⟨le, -, first⟩ := findIn?_eq_some inside place
    rcases Nat.eq_or_lt_of_le le with rfl | lt
    · rfl
    · exact absurd (occursAt_nil inside) (first start (Nat.le_refl _) lt)

end

/-! ### What stands in front -/

/-- What stands in front of the first occurrence is as long as its position says. -/
theorem before?_eq_some {x cs before : List Char} (h : before? x cs = some before) :
    (∃ behind, cs = before ++ x ++ behind) ∧ ∀ j < before.length, ¬ OccursAt x cs j := by
  induction cs generalizing before with
  | nil =>
    rw [before?] at h
    split at h
    · next empty =>
      cases h
      rw [List.isEmpty_iff] at empty
      exact ⟨⟨[], by rw [empty]; rfl⟩, nofun⟩
    · cases h
  | cons c cs ih =>
    rw [before?] at h
    split at h
    · next here =>
      cases h
      obtain ⟨behind, same⟩ := List.isPrefixOf_iff_prefix.1 here
      exact ⟨⟨behind, same.symm⟩, nofun⟩
    · next not =>
      rw [List.isPrefixOf_iff_prefix] at not
      obtain ⟨before, found, rfl⟩ := Option.map_eq_some_iff.1 h
      obtain ⟨⟨behind, rfl⟩, first⟩ := ih found
      refine ⟨⟨behind, rfl⟩, fun j lt earlier => ?_⟩
      obtain ⟨j, rfl, inner⟩ := earlier.exists_succ not
      exact first j (Nat.lt_of_succ_lt_succ lt) inner

theorem before?_eq_none {x cs : List Char} (h : before? x cs = none) : ¬ x <:+: cs := by
  induction cs with
  | nil =>
    rw [before?] at h
    split at h
    · cases h
    · next not =>
      rw [List.isEmpty_iff] at not
      exact fun infix_ => not (List.infix_nil.1 infix_)
  | cons c cs ih =>
    rw [before?] at h
    split at h
    · cases h
    · next not =>
      rw [List.isPrefixOf_iff_prefix] at not
      intro occurs
      rcases List.infix_cons_iff.1 occurs with here | later
      · exact not here
      · exact ih (Option.map_eq_none_iff.1 h) later

/-! ### Parts in between -/

theorem splitByFrom_ne_nil (x : List Char) (n : Nat) (cs : List Char) : splitByFrom x n cs ≠ [] := by
  fun_induction splitByFrom x n cs <;> simp_all

/-- Parts put together are the text without the characters that were to be passed over. -/
theorem intercalate_splitByFrom {x : List Char} (given : x ≠ []) (n : Nat) (cs : List Char) :
    x.intercalate (splitByFrom x n cs) = cs.drop n := by
  fun_induction splitByFrom x n cs with
  | case1 n => rw [List.intercalate_singleton, List.drop_nil]
  | case2 n c cs ih => rw [ih, List.drop_succ_cons]
  | case3 c cs here ih =>
    obtain ⟨behind, whole⟩ := List.isPrefixOf_iff_prefix.1 here
    have passed : cs.drop (x.length - 1) = behind := by
      have pos := List.length_pos_iff.2 given
      have split : (c :: cs).drop x.length = behind := by rw [← whole, List.drop_left]
      rwa [show x.length = x.length - 1 + 1 by omega, List.drop_succ_cons] at split
    rw [List.intercalate_cons_of_ne_nil (splitByFrom_ne_nil x _ cs), ih, passed, List.nil_append, whole]
    rfl
  | case4 c cs not p ps parts ih =>
    rw [parts, List.drop_zero] at ih
    rw [List.intercalate_cons_cons_left, ih]
    rfl
  | case5 c cs not parts => exact absurd parts (splitByFrom_ne_nil x 0 cs)

/-- The parts of a text, put together with what was between them, are the text. -/
theorem intercalate_splitBy {x : List Char} (given : x ≠ []) (cs : List Char) : x.intercalate (splitBy x cs) = cs :=
  intercalate_splitByFrom given 0 cs

end ScriptCoverage.Text
