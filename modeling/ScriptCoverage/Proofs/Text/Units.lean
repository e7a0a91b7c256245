import ScriptCoverage.Proofs.Text.Bytes
import ScriptCoverage.Text.Units

/-!
Offsets in units and in bytes. A place in a text is where it can be cut in two, and has the units and the bytes of the
first part in front of it. So the two ways to count take places to each other (`byteOf?_append`, `unitOf_append`), and
in the same order (`unitOf_lt`).
-/

namespace ScriptCoverage.Text

variable {s : String} {pre post : List Char}

theorem unitSize_pos (c : Char) : 0 < unitSize c := by
  unfold unitSize
  split <;> decide

theorem unitLength_append (cs ds : List Char) : unitLength (cs ++ ds) = unitLength cs + unitLength ds := by
  induction cs with
  | nil => exact (Nat.zero_add _).symm
  | cons c cs ih => rw [List.cons_append, unitLength, unitLength, ih, Nat.add_assoc]

theorem byteOfUnit?_eq_some {cs : List Char} {n b : Nat} (h : byteOfUnit? cs n = some b) :
    ∃ pre post, cs = pre ++ post ∧ unitLength pre = n ∧ byteLength pre = b := by
  induction cs generalizing n b with
  | nil =>
    cases n with
    | zero => exact ⟨[], [], rfl, rfl, Option.some.inj h⟩
    | succ n => cases h
  | cons c cs ih =>
    cases n with
    | zero => exact ⟨[], c :: cs, rfl, rfl, Option.some.inj h⟩
    | succ n =>
      rw [byteOfUnit?] at h
      · split at h
        · next fits =>
          obtain ⟨b', found, rfl⟩ := Option.map_eq_some_iff.1 h
          obtain ⟨pre, post, rfl, units, rfl⟩ := ih found
          exact ⟨c :: pre, post, rfl, by rw [unitLength, units]; omega, rfl⟩
        · cases h
      · exact Nat.succ_ne_zero n

/-- What an index in units leads to: a place with as many units in front of it. -/
theorem byteOf?_eq_some {i b : Nat} (h : byteOf? s i = some b) :
    ∃ pre post, s.toList = pre ++ post ∧ unitLength pre = i ∧ byteLength pre = b := by
  rw [byteOf?_eq] at h
  exact byteOfUnit?_eq_some h

theorem byteOfUnit?_append (pre post : List Char) : byteOfUnit? (pre ++ post) (unitLength pre) = some (byteLength pre) := by
  induction pre with
  | nil => cases post <;> rfl
  | cons c pre ih =>
    have pos := unitSize_pos c
    rw [List.cons_append, byteOfUnit?, unitLength, if_pos (Nat.le_add_right _ _), Nat.add_sub_cancel_left, ih]
    · rfl
    · rw [unitLength]
      omega

/-- The byte offset of a place. -/
theorem byteOf?_append (whole : s.toList = pre ++ post) : byteOf? s (unitLength pre) = some (byteLength pre) := by
  rw [byteOf?_eq, whole, byteOfUnit?_append]

/-- The index in units of a place. -/
theorem unitOf_append (whole : s.toList = pre ++ post) : unitOf s (byteLength pre) = unitLength pre := by
  rw [unitOf_eq, unitOfByte, whole, takeBytes?_append]
  rfl

theorem takeBytes?_eq_none {cs : List Char} {n : Nat} (h : byteLength cs < n) : takeBytes? cs n = none := by
  induction cs generalizing n with
  | nil =>
    cases n with
    | zero => cases h
    | succ n => rfl
  | cons c cs ih =>
    rw [byteLength] at h
    rw [takeBytes?, ih (by omega)]
    · split <;> rfl
    · omega

/-- Behind the end of a text there is no index. -/
theorem unitOf_eq_zero {b : Nat} (h : s.utf8ByteSize < b) : unitOf s b = 0 := by
  rw [unitOf_eq, unitOfByte, takeBytes?_eq_none (by rwa [← utf8ByteSize_eq])]
  rfl

theorem unitOf_le {b : Nat} (h : IsBoundary s b) : unitOf s b ≤ unitCount s := by
  obtain ⟨pre, post, whole, rfl⟩ := isBoundary_iff.1 h
  rw [unitOf_append whole, unitCount_eq, whole, unitLength_append]
  exact Nat.le_add_right _ _

/-- Of two places the one that is further on in bytes is further on in units. -/
theorem unitOf_lt {a b : Nat} (ha : IsBoundary s a) (hb : IsBoundary s b) (lt : a < b) : unitOf s a < unitOf s b := by
  obtain ⟨pre, post, whole, rfl⟩ := isBoundary_iff.1 ha
  obtain ⟨pre', post', whole', rfl⟩ := isBoundary_iff.1 hb
  rw [unitOf_append whole, unitOf_append whole']
  rcases List.append_eq_append_iff.1 (whole.symm.trans whole') with ⟨mid, rfl, -⟩ | ⟨mid, rfl, -⟩
  · cases mid with
    | nil =>
      rw [List.append_nil] at lt
      exact absurd lt (Nat.lt_irrefl _)
    | cons c cs =>
      rw [unitLength_append, unitLength]
      have := unitSize_pos c
      omega
  · rw [byteLength_append] at lt
    omega

end ScriptCoverage.Text
