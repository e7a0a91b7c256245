import ScriptCoverage.Proofs.Text.Pairs

/-!
Offsets in bytes against offsets in units. Both count what lies in front of a place, so each of them leads back to the
other one (`byteOf?_eq_some_iff`). An index that no place has lies behind the end, or between the units of a character
that has two (`byteOf?_eq_none_iff`). Main statement: `offsets_inverse`.
-/

namespace ScriptCoverage.Text

variable {s : String} {i b : Nat}

/-! ### Places -/

/-- An index leads to the boundary that has this index, and nowhere else. -/
theorem byteOf?_eq_some_iff : byteOf? s i = some b ↔ IsBoundary s b ∧ unitOf s b = i := by
  constructor
  · intro found
    obtain ⟨pre, post, whole, rfl, rfl⟩ := byteOf?_eq_some found
    exact ⟨isBoundary_iff.2 ⟨pre, post, whole, rfl⟩, unitOf_append whole⟩
  · rintro ⟨here, rfl⟩
    obtain ⟨pre, post, whole, rfl⟩ := isBoundary_iff.1 here
    rw [unitOf_append whole, byteOf?_append whole]

/-- The end of a text has all its units in front of it. -/
theorem unitOf_utf8ByteSize (s : String) : unitOf s s.utf8ByteSize = (unitsOf s.toList).length := by
  rw [utf8ByteSize_eq, unitOf_append (List.append_nil _).symm, length_unitsOf]

/-! ### Indices that no place has -/

/-- Whether an index lies between the two halves of a pair. -/
def BetweenHalves (us : List UInt16) (i : Nat) : Prop :=
  ∃ front high low back, us = front ++ high :: low :: back ∧ front.length + 1 = i ∧ isHighHalf high = true ∧
    isLowHalf low = true

/-- What characters are spelled by does not start with the second half of a pair. -/
theorem isLowHalf_of_unitsOf_eq_cons {cs : List Char} {u : UInt16} {us : List UInt16} (h : unitsOf cs = u :: us) :
    isLowHalf u = false := by
  cases cs with
  | nil => cases h
  | cons c cs =>
    rw [unitsOf_cons] at h
    rcases unitSize_eq c with ⟨-, narrow⟩ | ⟨-, wide⟩
    · obtain ⟨v, unit, -, -, low⟩ := unitsOfChar_narrow narrow
      rw [unit] at h
      obtain ⟨rfl, -⟩ := List.cons.inj h
      exact low
    · obtain ⟨-, -, high, -⟩ := toNat_halves wide
      rw [unitsOfChar_wide wide] at h
      obtain ⟨rfl, -⟩ := List.cons.inj h
      exact (halves_apart _).resolve_left (by rw [high]; decide)

theorem not_betweenHalves_append (pre post : List Char) :
    ¬ BetweenHalves (unitsOf (pre ++ post)) (unitLength pre) := by
  rintro ⟨front, high, low, back, units, place, -, isLow⟩
  rw [unitsOf_append, List.append_cons] at units
  have length : (unitsOf pre).length = (front ++ [high]).length := by
    rw [length_unitsOf, List.length_append, List.length_singleton, place]
  have starts : unitsOf post = low :: back := (List.append_inj units length).2
  rw [isLowHalf_of_unitsOf_eq_cons starts] at isLow
  cases isLow

theorem betweenHalves_append (pre : List Char) {c : Char} (two : unitSize c = 2) (post : List Char) :
    BetweenHalves (unitsOf (pre ++ c :: post)) (unitLength pre + 1) := by
  have wide := wide_of_unitSize two
  obtain ⟨-, -, high, low⟩ := toNat_halves wide
  refine ⟨unitsOf pre, highHalf c, lowHalf c, unitsOf post, ?_, by rw [length_unitsOf], high, low⟩
  rw [unitsOf_append, unitsOf_cons, unitsOfChar_wide wide]
  rfl

/-- An index leads nowhere iff it lies behind the end of the text or between the halves of a pair. -/
theorem byteOf?_eq_none_iff :
    byteOf? s i = none ↔ (unitsOf s.toList).length < i ∨ BetweenHalves (unitsOf s.toList) i := by
  constructor
  · intro none
    rw [byteOf?_eq] at none
    rcases Nat.lt_or_ge (unitsOf s.toList).length i with behind | le
    · exact .inl behind
    · rw [length_unitsOf] at le
      obtain ⟨pre, c, post, whole, two, rfl⟩ := byteOfUnit?_eq_none none le
      rw [whole]
      exact .inr (betweenHalves_append pre two post)
  · intro outside
    cases found : byteOf? s i with
    | none => rfl
    | some b =>
      obtain ⟨pre, post, whole, rfl, -⟩ := byteOf?_eq_some found
      rw [whole] at outside
      rcases outside with behind | between
      · rw [length_unitsOf, unitLength_append] at behind
        omega
      · exact absurd between (not_betweenHalves_append pre post)

/-! ### Both ways -/

/-- Offsets in bytes and in units are inverse to each other at the places between characters. From each of these, the
start and the end of the text included, the index in units leads back to the byte offset, and places keep their order. An
index that leads to a byte offset leads to such a place and is its index. It leads nowhere exactly where it is greater
than the number of units, or lies between the two units of a pair. -/
theorem offsets_inverse (s : String) :
    (∀ b, String.Pos.Raw.IsValid s ⟨b⟩ → byteOf? s (unitOf s b) = some b) ∧
    (String.Pos.Raw.IsValid s ⟨0⟩ ∧ unitOf s 0 = 0) ∧
    (String.Pos.Raw.IsValid s ⟨s.utf8ByteSize⟩ ∧ unitOf s s.utf8ByteSize = (unitsOf s.toList).length) ∧
    (∀ a b, String.Pos.Raw.IsValid s ⟨a⟩ → String.Pos.Raw.IsValid s ⟨b⟩ → a < b → unitOf s a < unitOf s b) ∧
    (∀ i b, byteOf? s i = some b → String.Pos.Raw.IsValid s ⟨b⟩ ∧ unitOf s b = i) ∧
    ∀ i, byteOf? s i = none ↔ (unitsOf s.toList).length < i ∨ BetweenHalves (unitsOf s.toList) i := by
  simp only [← isBoundary_iff_isValid]
  refine ⟨fun b here => ?_, ?_, ?_, fun a b ha hb lt => ?_, fun i b found => ?_, fun i => ?_⟩
  · exact byteOf?_eq_some_iff.2 ⟨here, rfl⟩
  · exact ⟨isBoundary_iff.2 ⟨[], s.toList, rfl, rfl⟩, unitOf_append (List.nil_append s.toList).symm⟩
  · exact ⟨isBoundary_iff_isValid.2 String.Pos.Raw.isValid_rawEndPos, unitOf_utf8ByteSize s⟩
  · exact unitOf_lt ha hb lt
  · exact byteOf?_eq_some_iff.1 found
  · exact byteOf?_eq_none_iff

/-- Characters of one, two, three and four bytes, the last of which has two units. The places around this one lead there
and back; the index between its units and the one behind the end lead nowhere. -/
theorem offsets_inverse_four_sizes :
    let s := "aé€😀"
    (String.Pos.Raw.IsValid s ⟨6⟩ ∧ byteOf? s (unitOf s 6) = some 6) ∧
    (String.Pos.Raw.IsValid s ⟨3⟩ ∧ 3 < 6 ∧ unitOf s 3 < unitOf s 6) ∧
    (byteOf? s 5 = some 10 ∧ String.Pos.Raw.IsValid s ⟨10⟩ ∧ unitOf s 10 = 5) ∧
    (BetweenHalves (unitsOf s.toList) 4 ∧ byteOf? s 4 = none) ∧
    ((unitsOf s.toList).length < 6 ∧ byteOf? s 6 = none) := by
  intro s
  have three : String.Pos.Raw.IsValid s ⟨3⟩ := by decide
  have six : String.Pos.Raw.IsValid s ⟨6⟩ := by decide
  have last : byteOf? s 5 = some 10 := by decide
  have between : BetweenHalves (unitsOf s.toList) 4 :=
    ⟨[0x61, 0xe9, 0x20ac], 0xd83d, 0xde00, [], by decide, rfl, by decide, by decide⟩
  have behind : (unitsOf s.toList).length < 6 := by decide
  obtain ⟨back, -, -, order, place, nowhere⟩ := offsets_inverse s
  exact ⟨⟨six, back 6 six⟩, ⟨three, by decide, order 3 6 three six (by decide)⟩, ⟨last, place 5 10 last⟩,
    ⟨between, (nowhere 4).2 (.inr between)⟩, behind, (nowhere 6).2 (.inl behind)⟩

end ScriptCoverage.Text
