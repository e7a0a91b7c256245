/-!
Cutting texts at byte offsets. A text is narrow if all its characters take one byte, which its two lengths
tell at once; then offsets in bytes count characters, and nothing has to be walked over. The main operation is
`slice?`, and `slice?_eq` says that the short way changes nothing.
-/

namespace ScriptCoverage.Text

/-! ### Characters -/

/-- Number of bytes that the characters take in UTF-8. -/
def byteLength : List Char → Nat
  | [] => 0
  | c :: cs => c.utf8Size + byteLength cs

/-- The characters behind the first `n` bytes, if a character starts there or the text ends there. -/
def dropBytes? : List Char → Nat → Option (List Char)
  | cs, 0 => some cs
  | [], _ + 1 => none
  | c :: cs, n => if c.utf8Size ≤ n then dropBytes? cs (n - c.utf8Size) else none

/-- The characters in front of the first `n` bytes, if a character starts there or the text ends there. -/
def takeBytes? : List Char → Nat → Option (List Char)
  | _, 0 => some []
  | [], _ + 1 => none
  | c :: cs, n => if c.utf8Size ≤ n then (takeBytes? cs (n - c.utf8Size)).map (c :: ·) else none

/-! ### Narrow texts -/

/-- Whether every character takes one byte. -/
def isNarrow (s : String) : Bool := s.length == s.utf8ByteSize

theorem utf8ByteSize_ofList (cs : List Char) : (String.ofList cs).utf8ByteSize = byteLength cs := by
  induction cs with
  | nil => rfl
  | cons c cs ih =>
    rw [show c :: cs = [c] ++ cs from rfl, String.ofList_append, String.utf8ByteSize_append, ih]
    simp [byteLength]

theorem utf8ByteSize_eq (s : String) : s.utf8ByteSize = byteLength s.toList := by
  rw [← utf8ByteSize_ofList, String.ofList_toList]

theorem length_le_byteLength (cs : List Char) : cs.length ≤ byteLength cs := by
  induction cs with
  | nil => simp [byteLength]
  | cons c cs ih =>
    have := c.utf8Size_pos
    simp [byteLength]
    omega

theorem utf8Size_of_length_eq {cs : List Char} (h : cs.length = byteLength cs) : ∀ c ∈ cs, c.utf8Size = 1 := by
  induction cs with
  | nil => simp
  | cons c cs ih =>
    have := c.utf8Size_pos
    have := length_le_byteLength cs
    simp only [byteLength, List.length_cons] at h
    simp only [List.mem_cons, forall_eq_or_imp]
    exact ⟨by omega, ih (by omega)⟩

theorem utf8Size_of_isNarrow {s : String} (h : isNarrow s) : ∀ c ∈ s.toList, c.utf8Size = 1 := by
  apply utf8Size_of_length_eq
  rw [String.length_toList, ← utf8ByteSize_eq]
  simpa [isNarrow] using h

theorem dropBytes?_of_narrow {cs : List Char} (h : ∀ c ∈ cs, c.utf8Size = 1) (n : Nat) :
    dropBytes? cs n = if n ≤ cs.length then some (cs.drop n) else none := by
  induction cs generalizing n with
  | nil => cases n <;> simp [dropBytes?]
  | cons c cs ih =>
    cases n with
    | zero => simp [dropBytes?]
    | succ n => simp [dropBytes?, h c (by simp), ih (fun c hc => h c (by simp [hc]))]

theorem takeBytes?_of_narrow {cs : List Char} (h : ∀ c ∈ cs, c.utf8Size = 1) (n : Nat) :
    takeBytes? cs n = if n ≤ cs.length then some (cs.take n) else none := by
  induction cs generalizing n with
  | nil => cases n <;> simp [takeBytes?]
  | cons c cs ih =>
    cases n with
    | zero => simp [takeBytes?]
    | succ n =>
      simp only [takeBytes?, h c (by simp), ih (fun c hc => h c (by simp [hc]))]
      by_cases hn : n ≤ cs.length <;> simp [hn]

/-! ### Offsets into narrow texts -/

/-- Going on by a character of one byte. -/
theorem raw_add_char {c : Char} (h : c.utf8Size = 1) (k : Nat) : (⟨k⟩ : String.Pos.Raw) + c = ⟨k + 1⟩ := by
  simp [String.Pos.Raw.ext_iff, h]

theorem utf8GetAux?_cons (c : Char) (cs : List Char) (i p : String.Pos.Raw) :
    String.Pos.Raw.utf8GetAux? (c :: cs) i p =
      if i = p then some c else String.Pos.Raw.utf8GetAux? cs (i + c) p := rfl

theorem utf8GetAux?_add {cs : List Char} (h : ∀ c ∈ cs, c.utf8Size = 1) (k i : Nat) :
    String.Pos.Raw.utf8GetAux? cs ⟨k⟩ ⟨k + i⟩ = cs[i]? := by
  induction cs generalizing k i with
  | nil => exact List.getElem?_nil.symm
  | cons c cs ih =>
    rw [utf8GetAux?_cons]
    cases i with
    | zero => simp
    | succ i =>
      have := ih (fun c hc => h c (by simp [hc])) (k + 1) i
      rw [show k + 1 + i = k + (i + 1) by omega] at this
      simp [String.Pos.Raw.ext_iff, raw_add_char (h c (by simp)), this]

/-- The character at an offset is the one at that place. -/
theorem get?_of_isNarrow {s : String} (h : isNarrow s) (i : Nat) : String.Pos.Raw.get? s ⟨i⟩ = s.toList[i]? := by
  have := utf8GetAux?_add (utf8Size_of_isNarrow h) 0 i
  rw [Nat.zero_add] at this
  exact this

theorem extract_go₂_cons (c : Char) (cs : List Char) (i e : String.Pos.Raw) :
    String.Pos.Raw.extract.go₂ (c :: cs) i e =
      if i = e then [] else c :: String.Pos.Raw.extract.go₂ cs (i + c) e := rfl

theorem extract_go₂_add {cs : List Char} (h : ∀ c ∈ cs, c.utf8Size = 1) (k n : Nat) :
    String.Pos.Raw.extract.go₂ cs ⟨k⟩ ⟨k + n⟩ = cs.take n := by
  induction cs generalizing k n with
  | nil => exact List.take_nil.symm
  | cons c cs ih =>
    rw [extract_go₂_cons]
    cases n with
    | zero => simp
    | succ n =>
      have := ih (fun c hc => h c (by simp [hc])) (k + 1) n
      rw [show k + 1 + n = k + (n + 1) by omega] at this
      simp [String.Pos.Raw.ext_iff, raw_add_char (h c (by simp)), this]

theorem extract_go₁_cons (c : Char) (cs : List Char) (i b e : String.Pos.Raw) :
    String.Pos.Raw.extract.go₁ (c :: cs) i b e =
      if i = b then String.Pos.Raw.extract.go₂ (c :: cs) i e
      else String.Pos.Raw.extract.go₁ cs (i + c) b e := rfl

theorem extract_go₁_add {cs : List Char} (h : ∀ c ∈ cs, c.utf8Size = 1) (k i n : Nat) :
    String.Pos.Raw.extract.go₁ cs ⟨k⟩ ⟨k + i⟩ ⟨k + i + n⟩ = (cs.drop i).take n := by
  induction cs generalizing k i with
  | nil => rw [List.drop_nil, List.take_nil]; rfl
  | cons c cs ih =>
    rw [extract_go₁_cons]
    cases i with
    | zero => simpa using extract_go₂_add h k n
    | succ i =>
      have := ih (fun c hc => h c (by simp [hc])) (k + 1) i
      rw [show k + 1 + i = k + (i + 1) by omega] at this
      simp [String.Pos.Raw.ext_iff, raw_add_char (h c (by simp)), this]

/-- The text between two offsets has the characters between those places. -/
theorem extract_of_isNarrow {s : String} (h : isNarrow s) (i n : Nat) :
    String.Pos.Raw.extract s ⟨i⟩ ⟨i + n⟩ = String.ofList ((s.toList.drop i).take n) := by
  have := extract_go₁_add (utf8Size_of_isNarrow h) 0 i n
  rw [Nat.zero_add] at this
  show (if i ≥ i + n then "" else String.ofList (String.Pos.Raw.extract.go₁ s.toList ⟨0⟩ ⟨i⟩ ⟨i + n⟩)) = _
  rw [this]
  cases n with
  | zero => simp
  | succ n => rw [if_neg (by omega)]

/-! ### Slices -/

/-- The text between two byte offsets, if both lie on character boundaries and in order. -/
def slice? (s : String) (start stop : Nat) : Option String :=
  if start ≤ stop then
    if isNarrow s then if stop ≤ s.length then some (String.Pos.Raw.extract s ⟨start⟩ ⟨stop⟩) else none
    else ((dropBytes? s.toList start).bind (takeBytes? · (stop - start))).map String.ofList
  else none

theorem slice?_eq (s : String) (start stop : Nat) :
    slice? s start stop = if start ≤ stop then
      ((dropBytes? s.toList start).bind (takeBytes? · (stop - start))).map String.ofList else none := by
  unfold slice?
  split
  · next h =>
    obtain ⟨n, rfl⟩ := Nat.exists_eq_add_of_le h
    split
    · next hs =>
      have hc := utf8Size_of_isNarrow hs
      have hd : ∀ c ∈ s.toList.drop start, c.utf8Size = 1 := fun c hm => hc c (List.mem_of_mem_drop hm)
      rw [dropBytes?_of_narrow hc, extract_of_isNarrow hs, ← String.length_toList]
      by_cases hl : start + n ≤ s.toList.length
      · have hd' := takeBytes?_of_narrow hd n
        rw [List.length_drop, if_pos (by omega)] at hd'
        simp [hl, show start ≤ s.toList.length by omega, hd']
      · by_cases hl' : start ≤ s.toList.length
        · have hd' := takeBytes?_of_narrow hd n
          rw [List.length_drop, if_neg (by omega)] at hd'
          simp [hl, hl', hd']
        · simp [hl, hl']
    · rfl
  · rfl

end ScriptCoverage.Text
