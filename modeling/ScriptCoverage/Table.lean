/-!
Tables from texts to values that remember the order in which their keys came in. A key keeps its place
when its value changes and goes to the end when it comes back after a removal; `Table.get?_put` and
`Table.get?_erase` say what a look-up finds after a change.
-/

namespace ScriptCoverage

/-- Keys with their values, oldest key first. -/
structure Table (α : Type) where
  entries : List (String × α) := []
  deriving Inhabited, Repr, DecidableEq

namespace Table

variable {α : Type}

/-! ### Look-up -/

def find? : List (String × α) → String → Option α
  | [], _ => none
  | (k, v) :: es, key => if k = key then some v else find? es key

def get? (t : Table α) (key : String) : Option α := find? t.entries key

def contains (t : Table α) (key : String) : Bool := (t.get? key).isSome

def keys (t : Table α) : List String := t.entries.map Prod.fst

def values (t : Table α) : List α := t.entries.map Prod.snd

def size (t : Table α) : Nat := t.entries.length

/-- The keys in ascending order of their characters. -/
def sortedKeys (t : Table α) : List String := t.keys.mergeSort (decide <| · ≤ ·)

/-- The values in ascending order of their keys. -/
def sortedValues (t : Table α) : List α := t.sortedKeys.filterMap t.get?

/-! ### Change -/

def putIn : List (String × α) → String → α → List (String × α)
  | [], key, value => [(key, value)]
  | (k, v) :: es, key, value => if k = key then (k, value) :: es else (k, v) :: putIn es key value

/-- Gives a key a value; a new key goes to the end. -/
def put (t : Table α) (key : String) (value : α) : Table α := ⟨putIn t.entries key value⟩

/-- Takes a key out. -/
def erase (t : Table α) (key : String) : Table α := ⟨t.entries.filter fun e => e.1 ≠ key⟩

/-! ### What a look-up finds after a change -/

theorem find?_putIn (es : List (String × α)) (key other : String) (value : α) :
    find? (putIn es key value) other = if key = other then some value else find? es other := by
  induction es with
  | nil => simp [putIn, find?]
  | cons e es ih =>
    obtain ⟨k, v⟩ := e
    by_cases hk : k = key
    · subst hk
      by_cases ho : k = other <;> simp [putIn, find?, ho]
    · by_cases ho : k = other
      · subst ho
        simp [putIn, find?, hk, Ne.symm hk]
      · simp [putIn, find?, hk, ho, ih]

@[simp]
theorem get?_put (t : Table α) (key other : String) (value : α) :
    (t.put key value).get? other = if key = other then some value else t.get? other :=
  find?_putIn t.entries key other value

theorem find?_filter_ne (es : List (String × α)) (key other : String) :
    find? (es.filter fun e => e.1 ≠ key) other = if key = other then none else find? es other := by
  induction es with
  | nil => simp [find?]
  | cons e es ih =>
    obtain ⟨k, v⟩ := e
    by_cases hk : k = key
    · subst hk
      by_cases ho : k = other <;> simp_all [find?]
    · by_cases ho : k = other
      · subst ho
        simp [find?, hk, Ne.symm hk]
      · simp_all [find?]

@[simp]
theorem get?_erase (t : Table α) (key other : String) :
    (t.erase key).get? other = if key = other then none else t.get? other :=
  find?_filter_ne t.entries key other

end Table

end ScriptCoverage
