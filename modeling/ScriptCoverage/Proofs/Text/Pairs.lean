import ScriptCoverage.Proofs.Text.Units

/-!
Characters of two units. The units of characters spell these characters again (`charsOfUnits_append`), and a half of a
pair that stands alone spells the replacement character. Main statement: `ofUnits_cut` — a text that is cut between two
units and put together again is the text, unless it was cut through a pair, of which each half is replaced.
-/

namespace ScriptCoverage.Text

/-! ### Units of characters -/

theorem unitSize_eq (c : Char) : unitSize c = 1 ∧ c.toNat < 0x10000 ∨ unitSize c = 2 ∧ 0x10000 ≤ c.toNat := by
  unfold unitSize
  split
  · exact .inl ⟨rfl, by assumption⟩
  · exact .inr ⟨rfl, by omega⟩

theorem wide_of_unitSize {c : Char} (two : unitSize c = 2) : 0x10000 ≤ c.toNat := by
  rcases unitSize_eq c with ⟨one, -⟩ | ⟨-, wide⟩
  · omega
  · exact wide

theorem length_unitsOfChar (c : Char) : (unitsOfChar c).length = unitSize c := by
  unfold unitsOfChar unitSize
  dsimp only
  split <;> rfl

theorem unitsOf_cons (c : Char) (cs : List Char) : unitsOf (c :: cs) = unitsOfChar c ++ unitsOf cs := List.flatMap_cons

theorem unitsOf_append (cs ds : List Char) : unitsOf (cs ++ ds) = unitsOf cs ++ unitsOf ds := List.flatMap_append

theorem length_unitsOf (cs : List Char) : (unitsOf cs).length = unitLength cs := by
  induction cs with
  | nil => rfl
  | cons c cs ih => rw [unitsOf_cons, List.length_append, length_unitsOfChar, ih, unitLength]

theorem isHighHalf_iff (u : UInt16) : isHighHalf u = true ↔ 0xd800 ≤ u.toNat ∧ u.toNat ≤ 0xdbff := by
  simp [isHighHalf, UInt16.le_iff_toNat_le]

theorem isLowHalf_iff (u : UInt16) : isLowHalf u = true ↔ 0xdc00 ≤ u.toNat ∧ u.toNat ≤ 0xdfff := by
  simp [isLowHalf, UInt16.le_iff_toNat_le]

/-- No unit is both halves of a pair. -/
theorem halves_apart (u : UInt16) : isHighHalf u = false ∨ isLowHalf u = false := by
  rw [← Bool.not_eq_true, ← Bool.not_eq_true, isHighHalf_iff, isLowHalf_iff]
  omega

/-- The first half of a character of two units. -/
def highHalf (c : Char) : UInt16 := UInt16.ofNat (0xd800 + (c.toNat - 0x10000) / 0x400)

/-- The second one. -/
def lowHalf (c : Char) : UInt16 := UInt16.ofNat (0xdc00 + (c.toNat - 0x10000) % 0x400)

theorem toNat_le (c : Char) : c.toNat ≤ 0x10ffff ∧ (c.toNat < 0xd800 ∨ 0xdfff < c.toNat) := by
  have valid : c.toNat < 0xd800 ∨ 0xdfff < c.toNat ∧ c.toNat < 0x110000 := c.valid
  omega

theorem toNat_halves {c : Char} (wide : 0x10000 ≤ c.toNat) :
    (highHalf c).toNat = 0xd800 + (c.toNat - 0x10000) / 0x400 ∧ (lowHalf c).toNat = 0xdc00 + (c.toNat - 0x10000) % 0x400 ∧
      isHighHalf (highHalf c) = true ∧ isLowHalf (lowHalf c) = true := by
  have bound := (toNat_le c).1
  have high : (highHalf c).toNat = 0xd800 + (c.toNat - 0x10000) / 0x400 := by
    rw [highHalf, UInt16.toNat_ofNat', Nat.mod_eq_of_lt (by omega)]
  have low : (lowHalf c).toNat = 0xdc00 + (c.toNat - 0x10000) % 0x400 := by
    rw [lowHalf, UInt16.toNat_ofNat', Nat.mod_eq_of_lt (by omega)]
  refine ⟨high, low, ?_, ?_⟩
  · rw [isHighHalf_iff, high]
    omega
  · rw [isLowHalf_iff, low]
    omega

/-- The unit of a character that has only one is no half of a pair. -/
theorem unitsOfChar_narrow {c : Char} (narrow : c.toNat < 0x10000) :
    ∃ u, unitsOfChar c = [u] ∧ u.toNat = c.toNat ∧ isHighHalf u = false ∧ isLowHalf u = false := by
  have apart := (toNat_le c).2
  have value : (UInt16.ofNat c.toNat).toNat = c.toNat := by
    rw [UInt16.toNat_ofNat', Nat.mod_eq_of_lt narrow]
  refine ⟨UInt16.ofNat c.toNat, ?_, value, ?_, ?_⟩
  · unfold unitsOfChar
    dsimp only
    rw [if_pos narrow]
  · rw [← Bool.not_eq_true, isHighHalf_iff, value]
    omega
  · rw [← Bool.not_eq_true, isLowHalf_iff, value]
    omega

theorem unitsOfChar_wide {c : Char} (wide : 0x10000 ≤ c.toNat) : unitsOfChar c = [highHalf c, lowHalf c] := by
  unfold unitsOfChar
  dsimp only
  rw [if_neg (by omega)]
  rfl

/-! ### What units spell -/

/-- What a unit spells where it is not the first half of a pair. -/
def single (u : UInt16) : Char := if isHighHalf u || isLowHalf u then replacement else Char.ofNat u.toNat

theorem charsOfUnits_singleton (u : UInt16) : charsOfUnits [u] = [single u] := by
  rw [charsOfUnits, single]

theorem charsOfUnits_cons {u : UInt16} (single_ : isHighHalf u = false) (us : List UInt16) :
    charsOfUnits (u :: us) = single u :: charsOfUnits us := by
  cases us with
  | nil => rw [charsOfUnits_singleton, charsOfUnits]
  | cons v us =>
    rw [charsOfUnits, single_, Bool.false_and]
    simp [single, single_]

/-- The units of a character in front of others spell the character. -/
theorem charsOfUnits_unitsOfChar (c : Char) (us : List UInt16) :
    charsOfUnits (unitsOfChar c ++ us) = c :: charsOfUnits us := by
  rcases unitSize_eq c with ⟨-, narrow⟩ | ⟨-, wide⟩
  · obtain ⟨u, units, value, high, low⟩ := unitsOfChar_narrow narrow
    rw [units, List.singleton_append, charsOfUnits_cons high, single, high, low, value, Char.ofNat_toNat]
    rfl
  · obtain ⟨high, low, isHigh, isLow⟩ := toNat_halves wide
    have value : 0x10000 + ((highHalf c).toNat - 0xd800) * 0x400 + ((lowHalf c).toNat - 0xdc00) = c.toNat := by
      rw [high, low]
      omega
    rw [unitsOfChar_wide wide, List.cons_append, List.singleton_append, charsOfUnits, isHigh, isLow, value,
      Char.ofNat_toNat]
    rfl

theorem charsOfUnits_append (cs : List Char) (us : List UInt16) :
    charsOfUnits (unitsOf cs ++ us) = cs ++ charsOfUnits us := by
  induction cs with
  | nil => rfl
  | cons c cs ih => rw [unitsOf_cons, List.append_assoc, charsOfUnits_unitsOfChar, ih, List.cons_append]

theorem charsOfUnits_unitsOf (cs : List Char) : charsOfUnits (unitsOf cs) = cs := by
  have spelled := charsOfUnits_append cs []
  rwa [List.append_nil, charsOfUnits, List.append_nil] at spelled

/-! ### Halves that stand alone -/

theorem single_halves {c : Char} (wide : 0x10000 ≤ c.toNat) :
    single (highHalf c) = replacement ∧ single (lowHalf c) = replacement := by
  obtain ⟨-, -, high, low⟩ := toNat_halves wide
  constructor
  · rw [single, high, Bool.true_or, if_pos rfl]
  · rw [single, low, Bool.or_true, if_pos rfl]

/-- What is left of a character whose units were spelled one by one. -/
def unpairedChar (c : Char) : List Char := if unitSize c = 1 then [c] else [replacement, replacement]

/-- What is left of a text whose units were spelled one by one. -/
def unpaired (s : String) : String := String.ofList (s.toList.flatMap unpairedChar)

theorem flatMap_unitsOfChar (c : Char) : ((unitsOfChar c).flatMap fun u => charsOfUnits [u]) = unpairedChar c := by
  rcases unitSize_eq c with ⟨one, -⟩ | ⟨two, wide⟩
  · obtain ⟨u, unit⟩ : ∃ u, unitsOfChar c = [u] := List.length_eq_one_iff.1 ((length_unitsOfChar c).trans one)
    have spelled := charsOfUnits_unitsOfChar c []
    rw [unit] at spelled
    rw [unpairedChar, if_pos one, unit, List.flatMap_singleton]
    exact spelled
  · obtain ⟨high, low⟩ := single_halves wide
    rw [unpairedChar, if_neg (by omega), unitsOfChar_wide wide]
    simp only [List.flatMap_cons, List.flatMap_nil, charsOfUnits_singleton, high, low]
    rfl

theorem flatMap_unitsOf (cs : List Char) : ((unitsOf cs).flatMap fun u => charsOfUnits [u]) = cs.flatMap unpairedChar := by
  rw [unitsOf, List.flatMap_assoc]
  exact congrArg (cs.flatMap ·) (funext flatMap_unitsOfChar)

theorem length_unpaired (cs : List Char) : (cs.flatMap unpairedChar).length = unitLength cs := by
  induction cs with
  | nil => rfl
  | cons c cs ih =>
    rw [List.flatMap_cons, List.length_append, ih, unitLength, unpairedChar]
    rcases unitSize_eq c with ⟨one, -⟩ | ⟨two, -⟩
    · rw [one, if_pos rfl]
      rfl
    · rw [two, if_neg (by decide)]
      rfl

theorem length_le_unitLength (cs : List Char) : cs.length ≤ unitLength cs := by
  induction cs with
  | nil => exact Nat.le_refl 0
  | cons c cs ih =>
    have := unitSize_pos c
    rw [unitLength, List.length_cons]
    omega

theorem unitSize_of_unitLength_eq {cs : List Char} (h : unitLength cs = cs.length) : ∀ c ∈ cs, unitSize c = 1 := by
  induction cs with
  | nil => nofun
  | cons c cs ih =>
    have pos := unitSize_pos c
    have least := length_le_unitLength cs
    rw [unitLength, List.length_cons] at h
    exact List.forall_mem_cons.2 ⟨by omega, ih (by omega)⟩

theorem flatMap_unpairedChar {cs : List Char} (narrow : ∀ c ∈ cs, unitSize c = 1) : cs.flatMap unpairedChar = cs := by
  induction cs with
  | nil => rfl
  | cons c cs ih =>
    obtain ⟨one, rest⟩ := List.forall_mem_cons.1 narrow
    rw [List.flatMap_cons, ih rest, unpairedChar, if_pos one]
    rfl

/-- Only a text of characters of one unit is left as it was. -/
theorem unpaired_eq_iff (s : String) : unpaired s = s ↔ ∀ c ∈ s.toList, unitSize c = 1 := by
  constructor
  · intro same
    have chars : s.toList.flatMap unpairedChar = s.toList := by
      have := congrArg String.toList same
      rwa [unpaired, String.toList_ofList] at this
    have length := length_unpaired s.toList
    rw [chars] at length
    exact unitSize_of_unitLength_eq length.symm
  · intro narrow
    rw [unpaired, flatMap_unpairedChar narrow, String.ofList_toList]

/-! ### Cutting between units -/

/-- A position that no character starts at lies between the halves of one. -/
theorem byteOfUnit?_eq_none {cs : List Char} {i : Nat} (h : byteOfUnit? cs i = none) (le : i ≤ unitLength cs) :
    ∃ pre c post, cs = pre ++ c :: post ∧ unitSize c = 2 ∧ i = unitLength pre + 1 := by
  induction cs generalizing i with
  | nil =>
    obtain rfl := Nat.le_zero.1 le
    cases h
  | cons c cs ih =>
    cases i with
    | zero => cases h
    | succ i =>
      rw [byteOfUnit?] at h
      · rw [unitLength] at le
        split at h
        · next fits =>
          obtain ⟨pre, d, post, rfl, two, place⟩ := ih (Option.map_eq_none_iff.1 h) (by omega)
          exact ⟨c :: pre, d, post, rfl, two, by rw [unitLength]; omega⟩
        · next inside =>
          have := (unitSize_eq c).imp And.left And.left
          exact ⟨[], c, cs, rfl, by omega, by rw [unitLength]; omega⟩
      · exact Nat.succ_ne_zero i

/-- What is left of a text that was cut at a position and put together again. -/
theorem ofUnits_cut (s : String) {i : Nat} (le : i ≤ unitCount s) :
    let left := ofUnits ((unitsOf s.toList).take i)
    let right := ofUnits ((unitsOf s.toList).drop i)
    (byteOf? s i).isSome ∧ left ++ right = s ∨
      ∃ pre c post, s.toList = pre ++ c :: post ∧ unitSize c = 2 ∧ i = unitLength pre + 1 ∧ byteOf? s i = none ∧
        left ++ right = String.ofList (pre ++ [replacement, replacement] ++ post) := by
  intro left right
  have joined : left ++ right =
      String.ofList (charsOfUnits ((unitsOf s.toList).take i) ++ charsOfUnits ((unitsOf s.toList).drop i)) :=
    (String.ofList_append).symm
  rw [unitCount_eq] at le
  cases place : byteOf? s i with
  | some b =>
    obtain ⟨pre, post, whole, rfl, -⟩ := byteOf?_eq_some place
    refine .inl ⟨rfl, ?_⟩
    rw [joined, whole, unitsOf_append, ← length_unitsOf, List.take_left, List.drop_left, charsOfUnits_unitsOf,
      charsOfUnits_unitsOf, ← whole, String.ofList_toList]
  | none =>
    rw [byteOf?_eq] at place
    obtain ⟨pre, c, post, whole, two, rfl⟩ := byteOfUnit?_eq_none place le
    refine .inr ⟨pre, c, post, whole, two, rfl, rfl, ?_⟩
    have wide := wide_of_unitSize two
    obtain ⟨-, -, high, low⟩ := toNat_halves wide
    obtain ⟨first, second⟩ := single_halves wide
    -- A second half at the start of what follows does not pair with anything behind it.
    have notHigh : isHighHalf (lowHalf c) = false := (halves_apart _).resolve_right (by rw [low]; decide)
    have units : unitsOf s.toList = (unitsOf pre ++ [highHalf c]) ++ lowHalf c :: unitsOf post := by
      rw [whole, unitsOf_append, unitsOf_cons, unitsOfChar_wide wide, List.append_assoc]
      rfl
    have length : unitLength pre + 1 = (unitsOf pre ++ [highHalf c]).length := by
      rw [List.length_append, length_unitsOf]
      rfl
    rw [joined, units, length, List.take_left, List.drop_left, charsOfUnits_append, charsOfUnits_singleton,
      charsOfUnits_cons notHigh, charsOfUnits_unitsOf, first, second, List.append_assoc, List.append_assoc]
    rfl

end ScriptCoverage.Text
