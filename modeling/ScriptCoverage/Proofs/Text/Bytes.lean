import ScriptCoverage.Text.Bytes

/-!
Character boundaries. A text can be cut at a byte offset iff some of its first characters take that many bytes
(`dropBytes?_eq_some`), and between two such offsets there is a slice of it (`exists_slice?`).
-/

namespace ScriptCoverage.Text

theorem byteLength_append (cs ds : List Char) : byteLength (cs ++ ds) = byteLength cs + byteLength ds := by
  induction cs with
  | nil => exact (Nat.zero_add _).symm
  | cons c cs ih => rw [List.cons_append, byteLength, byteLength, ih, Nat.add_assoc]

theorem dropBytes?_eq_some {cs rest : List Char} {n : Nat} (h : dropBytes? cs n = some rest) :
    ∃ pre, cs = pre ++ rest ∧ byteLength pre = n := by
  induction cs generalizing n with
  | nil =>
    cases n with
    | zero => exact ⟨[], Option.some.inj h, rfl⟩
    | succ n => cases h
  | cons c cs ih =>
    cases n with
    | zero => exact ⟨[], Option.some.inj h, rfl⟩
    | succ n =>
      rw [dropBytes?] at h
      split at h
      · next fits =>
        obtain ⟨pre, rfl, length⟩ := ih h
        exact ⟨c :: pre, rfl, by rw [byteLength, length]; omega⟩
      · cases h
      · exact Nat.succ_ne_zero n

theorem dropBytes?_append (pre post : List Char) : dropBytes? (pre ++ post) (byteLength pre) = some post := by
  induction pre with
  | nil => cases post <;> rfl
  | cons c pre ih =>
    have pos := c.utf8Size_pos
    rw [List.cons_append, dropBytes?, byteLength, if_pos (Nat.le_add_right _ _), Nat.add_sub_cancel_left, ih]
    rw [byteLength]
    omega

theorem takeBytes?_append (mid post : List Char) : takeBytes? (mid ++ post) (byteLength mid) = some mid := by
  induction mid with
  | nil => cases post <;> rfl
  | cons c mid ih =>
    have pos := c.utf8Size_pos
    obtain ⟨k, hk⟩ : ∃ k, byteLength (c :: mid) = k + 1 := ⟨byteLength (c :: mid) - 1, by rw [byteLength]; omega⟩
    rw [hk, List.cons_append, takeBytes?, ← hk, byteLength, if_pos (Nat.le_add_right _ _), Nat.add_sub_cancel_left, ih]
    · rfl
    · exact Nat.succ_ne_zero k

/-- Whether a text can be cut at a byte offset. -/
def IsBoundary (s : String) (n : Nat) : Prop := (dropBytes? s.toList n).isSome

instance (s : String) (n : Nat) : Decidable (IsBoundary s n) := inferInstanceAs (Decidable (_ = true))

theorem isBoundary_iff {s : String} {n : Nat} :
    IsBoundary s n ↔ ∃ pre post, s.toList = pre ++ post ∧ byteLength pre = n := by
  constructor
  · intro h
    obtain ⟨post, cut⟩ := Option.isSome_iff_exists.1 h
    obtain ⟨pre, whole, length⟩ := dropBytes?_eq_some cut
    exact ⟨pre, post, whole, length⟩
  · rintro ⟨pre, post, whole, rfl⟩
    rw [IsBoundary, whole, dropBytes?_append, Option.isSome_some]

/-- A text can be cut at the positions that lie between its characters. -/
theorem isBoundary_iff_isValid {s : String} {n : Nat} : IsBoundary s n ↔ String.Pos.Raw.IsValid s ⟨n⟩ := by
  rw [isBoundary_iff, String.Pos.Raw.isValid_iff_exists_append]
  constructor
  · rintro ⟨pre, post, whole, rfl⟩
    refine ⟨String.ofList pre, String.ofList post, ?_, ?_⟩
    · rw [← String.ofList_append, ← whole, String.ofList_toList]
    · rw [String.Pos.Raw.ext_iff, String.byteIdx_rawEndPos, utf8ByteSize_ofList]
  · rintro ⟨front, back, rfl, place⟩
    refine ⟨front.toList, back.toList, String.toList_append, ?_⟩
    rw [String.Pos.Raw.ext_iff, String.byteIdx_rawEndPos] at place
    exact (utf8ByteSize_eq front).symm.trans place.symm

/-- What lies between two places of a text. -/
theorem exists_between {pre post pre' post' : List Char} (same : pre ++ post = pre' ++ post')
    (order : byteLength pre ≤ byteLength pre') : ∃ mid, post = mid ++ post' ∧ pre' = pre ++ mid := by
  rcases List.append_eq_append_iff.1 same with ⟨mid, rfl, rfl⟩ | ⟨mid, rfl, rfl⟩
  · exact ⟨mid, rfl, rfl⟩
  · rw [byteLength_append] at order
    have empty : mid = [] := by
      cases mid with
      | nil => rfl
      | cons c cs =>
        have := c.utf8Size_pos
        rw [byteLength] at order
        omega
    subst empty
    exact ⟨[], rfl, by rw [List.append_nil, List.append_nil]⟩

theorem slice?_append {s : String} {pre mid post : List Char} (whole : s.toList = pre ++ (mid ++ post)) :
    slice? s (byteLength pre) (byteLength pre + byteLength mid) = some (String.ofList mid) := by
  rw [slice?_eq, if_pos (Nat.le_add_right _ _), whole, dropBytes?_append, Option.bind_some, Nat.add_sub_cancel_left,
    takeBytes?_append]
  rfl

/-- Between two boundaries there is a slice, of as many bytes as lie between them. -/
theorem exists_slice? {s : String} {start stop : Nat} (starts : IsBoundary s start) (stops : IsBoundary s stop)
    (order : start ≤ stop) :
    ∃ text, slice? s start stop = some text ∧ text.utf8ByteSize = stop - start ∧ stop ≤ s.utf8ByteSize := by
  obtain ⟨pre, rest, whole, rfl⟩ := isBoundary_iff.1 starts
  obtain ⟨pre', post, whole', rfl⟩ := isBoundary_iff.1 stops
  obtain ⟨mid, rfl, rfl⟩ := exists_between (whole.symm.trans whole') order
  have length := byteLength_append pre mid
  refine ⟨String.ofList mid, ?_, ?_, ?_⟩
  · rw [length, slice?_append whole]
  · rw [utf8ByteSize_ofList]
    omega
  · rw [utf8ByteSize_eq, whole', byteLength_append (pre ++ mid)]
    exact Nat.le_add_right _ _

end ScriptCoverage.Text
