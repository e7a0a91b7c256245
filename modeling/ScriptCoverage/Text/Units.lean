import ScriptCoverage.Text.Bytes

/-!
Texts as sequences of units of sixteen bits, which is how scripts count and cut them. A character takes one
unit or two; `ofUnits` puts texts together again, where half of a pair becomes the replacement character.
`byteOfUnit?` and `unitOfByte` convert between offsets in units and in bytes. The operations on `String` take
a short way through narrow texts; for each of them a lemma says that it comes to the same.
-/

namespace ScriptCoverage.Text

/-! ### Units -/

/-- The units of a character, two for those beyond the first plane. -/
def unitsOfChar (c : Char) : List UInt16 :=
  let n := c.toNat
  if n < 0x10000 then [UInt16.ofNat n]
  else [UInt16.ofNat (0xd800 + (n - 0x10000) / 0x400), UInt16.ofNat (0xdc00 + (n - 0x10000) % 0x400)]

/-- The units of a text. -/
def unitsOf (cs : List Char) : List UInt16 := cs.flatMap unitsOfChar

/-- Number of units of a character. -/
def unitSize (c : Char) : Nat := if c.toNat < 0x10000 then 1 else 2

/-- Number of units of a text. -/
def unitLength : List Char → Nat
  | [] => 0
  | c :: cs => unitSize c + unitLength cs

def isHighHalf (u : UInt16) : Bool := 0xd800 ≤ u && u ≤ 0xdbff

def isLowHalf (u : UInt16) : Bool := 0xdc00 ≤ u && u ≤ 0xdfff

/-- What stands for half a character. -/
def replacement : Char := '\ufffd'

/-- The characters that units spell. -/
def charsOfUnits : List UInt16 → List Char
  | [] => []
  | [u] => [if isHighHalf u || isLowHalf u then replacement else Char.ofNat u.toNat]
  | u :: v :: us =>
    if isHighHalf u && isLowHalf v then
      Char.ofNat (0x10000 + (u.toNat - 0xd800) * 0x400 + (v.toNat - 0xdc00)) :: charsOfUnits us
    else (if isHighHalf u || isLowHalf u then replacement else Char.ofNat u.toNat) :: charsOfUnits (v :: us)

def ofUnits (us : List UInt16) : String := String.ofList (charsOfUnits us)

/-- The units from one position up to another. -/
def cutUnits (us : List UInt16) (start stop : Nat) : List UInt16 := (us.take stop).drop start

/-- The first position from `start` on at which a list occurs in another one. -/
def findIn? {α : Type} [BEq α] (needle : List α) : List α → (start : Nat) → Option Nat
  | us, start + 1 =>
    match us with
    | [] => if needle.isEmpty then some 0 else none
    | _ :: us => (findIn? needle us start).map (· + 1)
  | us, 0 =>
    if needle.isPrefixOf us then some 0
    else match us with
      | [] => none
      | _ :: us => (findIn? needle us 0).map (· + 1)

/-! ### Offsets -/

/-- The byte offset of the character that starts at an offset in units, or of the end of the text. There is
none behind the end and between the halves of a character. -/
def byteOfUnit? : List Char → Nat → Option Nat
  | _, 0 => some 0
  | [], _ + 1 => none
  | c :: cs, n => if unitSize c ≤ n then (byteOfUnit? cs (n - unitSize c)).map (c.utf8Size + ·) else none

/-- The offset in units of a byte offset; zero for what is inside a character or behind the end. -/
def unitOfByte (cs : List Char) (byte : Nat) : Nat := ((takeBytes? cs byte).map unitLength).getD 0

/-! ### Narrow characters -/

/-- The unit of a character that takes one byte. -/
def narrowUnit (c : Char) : UInt16 := UInt16.ofNat c.toNat

theorem toNat_lt_of_narrow {c : Char} (h : c.utf8Size = 1) : c.toNat < 128 := by
  have := Char.utf8Size_eq_one_iff.1 h
  have : c.val.toNat ≤ 127 := this
  show c.val.toNat < 128
  omega

theorem unitsOfChar_of_narrow {c : Char} (h : c.utf8Size = 1) : unitsOfChar c = [narrowUnit c] := by
  have := toNat_lt_of_narrow h
  simp [unitsOfChar, narrowUnit, show c.toNat < 0x10000 by omega]

theorem unitSize_of_narrow {c : Char} (h : c.utf8Size = 1) : unitSize c = 1 := by
  have := toNat_lt_of_narrow h
  simp [unitSize, show c.toNat < 0x10000 by omega]

theorem unitsOf_of_narrow {cs : List Char} (h : ∀ c ∈ cs, c.utf8Size = 1) : unitsOf cs = cs.map narrowUnit := by
  induction cs with
  | nil => rfl
  | cons c cs ih =>
    simp only [unitsOf, List.flatMap_cons, List.map_cons] at ih ⊢
    rw [unitsOfChar_of_narrow (h c (by simp)), ih fun c hc => h c (by simp [hc])]
    rfl

theorem unitLength_of_narrow {cs : List Char} (h : ∀ c ∈ cs, c.utf8Size = 1) : unitLength cs = cs.length := by
  induction cs with
  | nil => rfl
  | cons c cs ih =>
    simp only [unitLength, List.length_cons]
    rw [unitSize_of_narrow (h c (by simp)), ih fun c hc => h c (by simp [hc])]
    omega

theorem toNat_narrowUnit {c : Char} (h : c.utf8Size = 1) : (narrowUnit c).toNat = c.toNat := by
  have := toNat_lt_of_narrow h
  simp [narrowUnit, UInt16.toNat_ofNat']
  omega

theorem charsOfUnits_of_narrow {cs : List Char} (h : ∀ c ∈ cs, c.utf8Size = 1) :
    charsOfUnits (cs.map narrowUnit) = cs := by
  induction cs with
  | nil => rfl
  | cons c cs ih =>
    have hc := h c (by simp)
    have hn := toNat_narrowUnit hc
    have hl := toNat_lt_of_narrow hc
    have high : isHighHalf (narrowUnit c) = false := by
      simp only [isHighHalf, Bool.and_eq_false_iff, decide_eq_false_iff_not, UInt16.not_le, UInt16.lt_iff_toNat_lt]
      left
      rw [hn]
      exact Nat.lt_of_lt_of_le hl (by decide)
    have low : isLowHalf (narrowUnit c) = false := by
      simp only [isLowHalf, Bool.and_eq_false_iff, decide_eq_false_iff_not, UInt16.not_le, UInt16.lt_iff_toNat_lt]
      left
      rw [hn]
      exact Nat.lt_of_lt_of_le hl (by decide)
    have ih := ih fun c hc => h c (by simp [hc])
    cases cs with
    | nil => simp [charsOfUnits, high, low, hn, Char.ofNat_toNat]
    | cons d ds =>
      simp only [List.map_cons] at ih ⊢
      simp [charsOfUnits, high, low, hn, Char.ofNat_toNat, ih]

theorem byteOfUnit?_of_narrow {cs : List Char} (h : ∀ c ∈ cs, c.utf8Size = 1) (n : Nat) :
    byteOfUnit? cs n = if n ≤ cs.length then some n else none := by
  induction cs generalizing n with
  | nil => cases n <;> simp [byteOfUnit?]
  | cons c cs ih =>
    have hc := h c (by simp)
    cases n with
    | zero => simp [byteOfUnit?]
    | succ n =>
      simp only [byteOfUnit?, unitSize_of_narrow hc, hc, ih fun c hc => h c (by simp [hc])]
      by_cases hn : n ≤ cs.length <;> simp [hn, Nat.add_comm]

theorem unitOfByte_of_narrow {cs : List Char} (h : ∀ c ∈ cs, c.utf8Size = 1) (n : Nat) :
    unitOfByte cs n = if n ≤ cs.length then n else 0 := by
  rw [unitOfByte, takeBytes?_of_narrow h]
  by_cases hn : n ≤ cs.length
  · simp [hn, unitLength_of_narrow fun c hc => h c (List.mem_of_mem_take hc)]
  · simp [hn]

theorem isPrefixOf_map {as bs : List Char} (ha : ∀ c ∈ as, c.utf8Size = 1) (hb : ∀ c ∈ bs, c.utf8Size = 1) :
    (as.map narrowUnit).isPrefixOf (bs.map narrowUnit) = as.isPrefixOf bs := by
  induction as generalizing bs with
  | nil => simp
  | cons a as ih =>
    cases bs with
    | nil => simp
    | cons b bs =>
      have hab : (narrowUnit a == narrowUnit b) = (a == b) := by
        rw [Bool.eq_iff_iff, beq_iff_eq, beq_iff_eq]
        refine ⟨fun e => ?_, fun e => e ▸ rfl⟩
        have e := congrArg UInt16.toNat e
        rw [toNat_narrowUnit (ha a (by simp)), toNat_narrowUnit (hb b (by simp))] at e
        exact Char.toNat_inj.1 e
      have ih := ih (fun c hc => ha c (List.mem_cons_of_mem a hc)) fun c hc => hb c (List.mem_cons_of_mem b hc)
      simp [List.isPrefixOf, hab, ih]

theorem findIn?_map {as bs : List Char} (ha : ∀ c ∈ as, c.utf8Size = 1) (hb : ∀ c ∈ bs, c.utf8Size = 1) (n : Nat) :
    findIn? (as.map narrowUnit) (bs.map narrowUnit) n = findIn? as bs n := by
  induction bs generalizing n with
  | nil =>
    have := isPrefixOf_map ha hb
    cases n <;> simp_all [findIn?]
  | cons b bs ih =>
    have ih := ih fun c hc => hb c (by simp [hc])
    have := isPrefixOf_map ha hb
    cases n <;> simp_all [findIn?]

/-- A search that starts further on finds what a search behind that place finds. -/
theorem findIn?_drop {as bs : List Char} {n : Nat} (h : n ≤ bs.length) :
    findIn? as bs n = (findIn? as (bs.drop n) 0).map (n + ·) := by
  induction n generalizing bs with
  | zero => simp
  | succ n ih =>
    cases bs with
    | nil => simp at h
    | cons b bs =>
      simp only [findIn?, List.drop_succ_cons, ih (Nat.le_of_succ_le_succ h), Option.map_map]
      congr 1
      funext m
      simp
      omega

/-! ### Positions in texts -/

/-- Number of units of a text. -/
def unitCount (s : String) : Nat := if isNarrow s then s.length else unitLength s.toList

theorem unitCount_eq (s : String) : unitCount s = unitLength s.toList := by
  unfold unitCount
  split
  · next h => rw [unitLength_of_narrow (utf8Size_of_isNarrow h), String.length_toList]
  · rfl

/-- The unit at a position. -/
def unitAt? (s : String) (i : Nat) : Option UInt16 :=
  if isNarrow s then (String.Pos.Raw.get? s ⟨i⟩).map narrowUnit else (unitsOf s.toList)[i]?

theorem unitAt?_eq (s : String) (i : Nat) : unitAt? s i = (unitsOf s.toList)[i]? := by
  unfold unitAt?
  split
  · next h => rw [get?_of_isNarrow h, unitsOf_of_narrow (utf8Size_of_isNarrow h), List.getElem?_map]
  · rfl

/-- The text between two positions. -/
def unitSlice (s : String) (start stop : Nat) : String :=
  if isNarrow s then String.Pos.Raw.extract s ⟨start⟩ ⟨start + (stop - start)⟩
  else ofUnits (cutUnits (unitsOf s.toList) start stop)

theorem unitSlice_eq (s : String) (start stop : Nat) :
    unitSlice s start stop = ofUnits (cutUnits (unitsOf s.toList) start stop) := by
  unfold unitSlice
  split
  · next h =>
    have hc := utf8Size_of_isNarrow h
    rw [extract_of_isNarrow h, ofUnits, cutUnits, unitsOf_of_narrow hc, ← List.map_take, ← List.map_drop,
      List.drop_take, charsOfUnits_of_narrow]
    exact fun c hm => hc c (List.mem_of_mem_drop (List.mem_of_mem_take hm))
  · rfl

/-- The first position from `start` on at which a text occurs in another one. -/
def find? (needle s : String) (start : Nat) : Option Nat :=
  if isNarrow s && isNarrow needle && start ≤ s.length then
    (findIn? needle.toList (String.Pos.Raw.extract s ⟨start⟩ ⟨start + s.length⟩).toList 0).map (start + ·)
  else findIn? (unitsOf needle.toList) (unitsOf s.toList) start

theorem find?_eq (needle s : String) (start : Nat) :
    find? needle s start = findIn? (unitsOf needle.toList) (unitsOf s.toList) start := by
  unfold find?
  split
  · next h =>
    simp only [Bool.and_eq_true, decide_eq_true_eq] at h
    obtain ⟨⟨hs, hn⟩, hl⟩ := h
    have hs' := utf8Size_of_isNarrow hs
    have hn' := utf8Size_of_isNarrow hn
    rw [← String.length_toList] at hl
    rw [extract_of_isNarrow hs, String.toList_ofList, unitsOf_of_narrow hs', unitsOf_of_narrow hn',
      findIn?_map hn' hs', findIn?_drop hl, List.take_of_length_le]
    rw [List.length_drop, String.length_toList]
    omega
  · rfl

/-- The byte offset of a position in units, where a character starts or the text ends. -/
def byteOf? (s : String) (unit : Nat) : Option Nat :=
  if isNarrow s then if unit ≤ s.length then some unit else none else byteOfUnit? s.toList unit

theorem byteOf?_eq (s : String) (unit : Nat) : byteOf? s unit = byteOfUnit? s.toList unit := by
  unfold byteOf?
  split
  · next h => rw [byteOfUnit?_of_narrow (utf8Size_of_isNarrow h), String.length_toList]
  · rfl

/-- The position in units of a byte offset. -/
def unitOf (s : String) (byte : Nat) : Nat :=
  if isNarrow s then if byte ≤ s.length then byte else 0 else unitOfByte s.toList byte

theorem unitOf_eq (s : String) (byte : Nat) : unitOf s byte = unitOfByte s.toList byte := by
  unfold unitOf
  split
  · next h => rw [unitOfByte_of_narrow (utf8Size_of_isNarrow h), String.length_toList]
  · rfl

end ScriptCoverage.Text
