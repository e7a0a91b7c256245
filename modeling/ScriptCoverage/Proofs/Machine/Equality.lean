import ScriptCoverage.Proofs.Machine.OwnCode
import ScriptCoverage.Proofs.Machine.UnboundedTexts
import ScriptCoverage.Proofs.Number.Equality

/-!
The operators `===` and `==`. The latter rewrites one side after the other: booleans as numbers, values on the heap as
their texts, strings as numbers (`Heap.Compares`). Main statement: `loose_equality_extends_strict` — where arrays do not
contain themselves and prototypes have no cycles, this ends for all values, and gives a symmetric relation that contains
`===` and keeps `undefined` and `null` apart from all else.
-/

namespace ScriptCoverage.Machine

/-! ### Strict equality -/

theorem Value.strictEquals_comm (a b : Value) : a.strictEquals b = b.strictEquals a := by
  cases a with
  | number x =>
    cases b with
    | number y => exact Binary.beq_comm x y
    | _ => rfl
  | _ => cases b <;> simp [strictEquals, eq_comm]

/-- Strictly equal values are the same or numbers that are equal. -/
theorem Value.strictEquals_iff (a b : Value) :
    a.strictEquals b = true ↔ (∃ x y, a = .number x ∧ b = .number y ∧ (x == y) = true) ∨
      (∀ x, a ≠ .number x) ∧ a = b := by
  cases a with
  | number x =>
    cases b with
    | number y => simp [strictEquals]
    | _ => simp [strictEquals]
  | _ => cases b <;> simp [strictEquals]

theorem Value.strictEquals_trans {a b c : Value} (h : a.strictEquals b = true) (h' : b.strictEquals c = true) :
    a.strictEquals c = true := by
  rw [strictEquals_iff] at h h' ⊢
  rcases h with ⟨x, y, rfl, rfl, equal⟩ | ⟨other, rfl⟩
  · rcases h' with ⟨y', z, same, rfl, equal'⟩ | ⟨other, -⟩
    · cases same
      exact .inl ⟨x, z, rfl, rfl, Binary.beq_trans equal equal'⟩
    · exact absurd rfl (other y)
  · exact h'

theorem Value.strictEquals_self (a : Value) : a.strictEquals a = false ↔ ∃ x, a = .number x ∧ x.isNaN = true := by
  cases a with
  | number x =>
    change (x == x) = false ↔ _
    simp [Binary.beq_self]
  | _ => simp [strictEquals]

/-! ### Kinds of values -/

/-- What a value is that is not `undefined`, `null` or a boolean. -/
theorem Value.plain_or_object {a : Value} (given : a.isNullish = false) (other : ∀ x, a ≠ .bool x) :
    Heap.isNumberOrString a = true ∨ a.isObject = true := by
  cases a with
  | undefined | null => cases given
  | bool x => exact absurd rfl (other x)
  | number | string => exact .inl rfl
  | _ => exact .inr rfl

namespace Heap

/-! ### Loose equality as it rewrites -/

/-- What `==` gives for two values that nothing bounds. It rewrites one side and starts again, until both are of a
kind. -/
inductive Compares (h : Heap) : Value → Value → Bool → Prop
  | nullish {a b : Value} (either : (a.isNullish || b.isNullish) = true) : Compares h a b (a.isNullish && b.isNullish)
  | numberText (x : Float) (s : String) : Compares h (.number x) (.string s) (x == numberOfText s)
  | textNumber (s : String) (x : Float) : Compares h (.string s) (.number x) (numberOfText s == x)
  | boolLeft {x : Bool} {b : Value} {result : Bool} (given : b.isNullish = false)
    (again : Compares h (.number (if x then 1 else 0)) b result) : Compares h (.bool x) b result
  | boolRight {a : Value} {y : Bool} {result : Bool} (given : a.isNullish = false) (other : ∀ x, a ≠ .bool x)
    (again : Compares h a (.number (if y then 1 else 0)) result) : Compares h a (.bool y) result
  | objectLeft {a b : Value} {t : String} {result : Bool} (place : a.isObject = true) (plain : isNumberOrString b = true)
    (spells : h.Spells a t) (again : Compares h (.string t) b result) : Compares h a b result
  | objectRight {a b : Value} {t : String} {result : Bool} (plain : isNumberOrString a = true) (place : b.isObject = true)
    (spells : h.Spells b t) (again : Compares h a (.string t) result) : Compares h a b result
  | numbers (x y : Float) : Compares h (.number x) (.number y) (x == y)
  | texts (s t : String) : Compares h (.string s) (.string t) (s == t)
  | objects {a b : Value} (left : a.isObject = true) (right : b.isObject = true) : Compares h a b (a.strictEquals b)

variable {h : Heap} {a b : Value}

/-! ### One equation for each step -/

theorem looseEquals_nullish (either : (a.isNullish || b.isNullish) = true) :
    h.looseEquals a b = (a.isNullish && b.isNullish) := by
  rw [looseEquals, if_pos either]

theorem looseEquals_boolLeft (x : Bool) (b : Value) :
    h.looseEquals (.bool x) b = h.looseEquals (.number (if x then 1 else 0)) b := by
  cases b <;> rfl

theorem looseEquals_boolRight (a : Value) (y : Bool) :
    h.looseEquals a (.bool y) = h.looseEquals a (.number (if y then 1 else 0)) := by
  cases a <;> rfl

theorem looseEquals_objectLeft (place : a.isObject = true) (plain : isNumberOrString b = true) :
    h.looseEquals a b = h.looseEquals (.string (h.text a)) b := by
  cases b with
  | number | string =>
    cases a with
    | object | array | function | regex => rfl
    | _ => cases place
  | _ => cases plain

theorem looseEquals_objectRight (plain : isNumberOrString a = true) (place : b.isObject = true) :
    h.looseEquals a b = h.looseEquals a (.string (h.text b)) := by
  cases a with
  | number | string =>
    cases b with
    | object | array | function | regex => rfl
    | _ => cases place
  | _ => cases plain

theorem looseEquals_texts (s t : String) : h.looseEquals (.string s) (.string t) = (s == t) := by
  change decide (Value.string s = .string t) = _
  rw [Bool.eq_iff_iff, decide_eq_true_iff, beq_iff_eq, Value.string.injEq]

theorem looseEquals_objects (left : a.isObject = true) (right : b.isObject = true) :
    h.looseEquals a b = a.strictEquals b := by
  cases a with
  | object | array | function | regex =>
    cases b with
    | object | array | function | regex => rfl
    | _ => cases right
  | _ => cases left

/-! ### All steps -/

/-- Numbers and strings are compared at once. -/
theorem compares_of_plain (left : isNumberOrString a = true) (right : isNumberOrString b = true) :
    ∃ result, h.Compares a b result := by
  cases a with
  | number x =>
    cases b with
    | number y => exact ⟨_, .numbers x y⟩
    | string t => exact ⟨_, .numberText x t⟩
    | _ => cases right
  | string s =>
    cases b with
    | number y => exact ⟨_, .textNumber s y⟩
    | string t => exact ⟨_, .texts s t⟩
    | _ => cases right
  | _ => cases left

section

variable (arrays : ∀ r, ¬ Relation.TransGen h.IsItemOf r r) (prototypes : ∀ r, ¬ Relation.TransGen h.IsPrototypeOf r r)

include arrays prototypes

theorem Compares.eq_looseEquals {result : Bool} (compares : h.Compares a b result) : result = h.looseEquals a b := by
  induction compares with
  | nullish either => exact (looseEquals_nullish either).symm
  | numberText | textNumber | numbers => rfl
  | texts s t => exact (looseEquals_texts s t).symm
  | boolLeft _ _ ih => exact ih.trans (looseEquals_boolLeft _ _).symm
  | boolRight _ _ _ ih => exact ih.trans (looseEquals_boolRight _ _).symm
  | objectLeft place plain spells _ ih =>
    obtain rfl := (spells_iff arrays prototypes _ _).1 spells
    exact ih.trans (looseEquals_objectLeft place plain).symm
  | objectRight plain place spells _ ih =>
    obtain rfl := (spells_iff arrays prototypes _ _).1 spells
    exact ih.trans (looseEquals_objectRight plain place).symm
  | objects left right => exact (looseEquals_objects left right).symm

/-- After booleans became numbers, at most one side is a value on the heap next to a number or a string. -/
theorem compares_of_not_bool (left : a.isNullish = false) (right : b.isNullish = false) (noBool : ∀ x, a ≠ .bool x)
    (noBool' : ∀ y, b ≠ .bool y) : ∃ result, h.Compares a b result := by
  have spells (v : Value) : h.Spells v (h.text v) := (spells_iff arrays prototypes v _).2 rfl
  rcases Value.plain_or_object left noBool with plain | place
  · rcases Value.plain_or_object right noBool' with plain' | place'
    · exact compares_of_plain plain plain'
    · obtain ⟨result, again⟩ := compares_of_plain (h := h) plain (b := .string (h.text b)) rfl
      exact ⟨result, .objectRight plain place' (spells b) again⟩
  · rcases Value.plain_or_object right noBool' with plain' | place'
    · obtain ⟨result, again⟩ := compares_of_plain (h := h) (a := .string (h.text a)) rfl plain'
      exact ⟨result, .objectLeft place plain' (spells a) again⟩
    · exact ⟨_, .objects place place'⟩

/-- The comparison ends. -/
theorem exists_compares (a b : Value) : ∃ result, h.Compares a b result := by
  cases either : a.isNullish || b.isNullish with
  | true => exact ⟨_, .nullish either⟩
  | false =>
    obtain ⟨left, right⟩ := Bool.or_eq_false_iff.1 either
    have behindLeft (a : Value) (left : a.isNullish = false) (noBool : ∀ x, a ≠ .bool x) : ∃ result, h.Compares a b result := by
      by_cases bool : ∃ y, b = .bool y
      · obtain ⟨y, rfl⟩ := bool
        obtain ⟨result, again⟩ := compares_of_not_bool arrays prototypes left (b := .number (if y then 1 else 0)) rfl noBool nofun
        exact ⟨result, .boolRight left noBool again⟩
      · exact compares_of_not_bool arrays prototypes left right noBool fun y same => bool ⟨y, same⟩
    by_cases bool : ∃ x, a = .bool x
    · obtain ⟨x, rfl⟩ := bool
      obtain ⟨result, again⟩ := behindLeft (.number (if x then 1 else 0)) rfl nofun
      exact ⟨result, .boolLeft right again⟩
    · exact behindLeft a left fun x same => bool ⟨x, same⟩

end

/-! ### Laws -/

/-- Rewriting works on both sides alike. -/
theorem Compares.symm {result : Bool} (compares : h.Compares a b result) : h.Compares b a result := by
  induction compares with
  | nullish either =>
    rw [Bool.and_comm]
    exact .nullish ((Bool.or_comm _ _).trans either)
  | numberText x s =>
    rw [Binary.beq_comm]
    exact .textNumber s x
  | textNumber s x =>
    rw [Binary.beq_comm]
    exact .numberText x s
  | @boolLeft x b result given _ ih =>
    by_cases both : ∃ y, b = .bool y
    · -- Of two booleans the first one is rewritten first, on whichever side it is.
      obtain ⟨y, rfl⟩ := both
      cases ih with
      | boolLeft _ again => exact .boolLeft rfl (.boolRight rfl nofun again)
      | nullish either => cases either
      | objectLeft place => cases place
      | objectRight plain => cases plain
      | objects left => cases left
    · exact .boolRight given (fun y same => both ⟨y, same⟩) ih
  | boolRight given _ _ ih => exact .boolLeft given ih
  | objectLeft place plain spells _ ih => exact .objectRight plain place spells ih
  | objectRight plain place spells _ ih => exact .objectLeft place plain spells ih
  | numbers x y =>
    rw [Binary.beq_comm]
    exact .numbers y x
  | texts s t =>
    rw [BEq.comm]
    exact .texts t s
  | objects left right =>
    rw [Value.strictEquals_comm]
    exact .objects right left

theorem looseEquals_of_strictEquals (strict : a.strictEquals b = true) : h.looseEquals a b = true := by
  rcases (Value.strictEquals_iff a b).1 strict with ⟨x, y, rfl, rfl, equal⟩ | ⟨other, rfl⟩
  · exact equal
  · cases a with
    | undefined | null => rfl
    | number x => exact absurd rfl (other x)
    | string s => rw [looseEquals_texts, beq_self_eq_true]
    | bool x =>
      rw [looseEquals_boolLeft, looseEquals_boolRight]
      change ((if x then 1 else 0 : Float) == if x then 1 else 0) = true
      rw [Binary.beq_self]
      cases x <;> decide +kernel
    | _ => exact (looseEquals_objects rfl rfl).trans strict

/-- The operators `===` and `==`, over every heap in which arrays do not contain themselves and prototypes have no cycles.
The rewriting of `==` ends for all values, with one result, which `looseEquals` gives; neither does the order of the sides
matter, nor can it tell apart what `===` puts together. `undefined` and `null` are equal to each other and nothing else.
And `===` is symmetric and transitive, and only what is no number differs from itself. -/
theorem loose_equality_extends_strict (arrays : ∀ r, ¬ Relation.TransGen h.IsItemOf r r)
    (prototypes : ∀ r, ¬ Relation.TransGen h.IsPrototypeOf r r) :
    (∀ a b result, h.Compares a b result ↔ result = h.looseEquals a b) ∧
    (∀ a b, h.looseEquals a b = h.looseEquals b a) ∧
    (∀ a b, a.strictEquals b = true → h.looseEquals a b = true) ∧
    (∀ a b, a.isNullish = true → h.looseEquals a b = b.isNullish) ∧
    (∀ a b : Value, a.strictEquals b = b.strictEquals a) ∧
    (∀ a b c : Value, a.strictEquals b = true → b.strictEquals c = true → a.strictEquals c = true) ∧
    ∀ a : Value, a.strictEquals a = false ↔ ∃ x, a = .number x ∧ x.isNaN = true := by
  have ends (a b : Value) : h.Compares a b (h.looseEquals a b) := by
    obtain ⟨result, compares⟩ := exists_compares arrays prototypes a b
    exact compares.eq_looseEquals arrays prototypes ▸ compares
  refine ⟨fun a b result => ⟨fun compares => compares.eq_looseEquals arrays prototypes, fun same => same ▸ ends a b⟩,
    fun a b => ?_, fun a b => looseEquals_of_strictEquals, fun a b nullish => ?_, Value.strictEquals_comm,
    fun a b c => Value.strictEquals_trans, Value.strictEquals_self⟩
  · exact (ends a b).symm.eq_looseEquals arrays prototypes
  · rw [looseEquals_nullish (by rw [nullish, Bool.true_or]), nullish, Bool.true_and]

end Heap

/-! ### An array in an array -/

namespace NestedItems

open Shadowing in
/-- The machine behind a script that makes two arrays, the second one of which has the first one as an item, and an
error, the last object. -/
def machine : Machine Unit :=
  machineOf ((Task.eval "var a = [['1', true], null]; var e = new TypeError('x');").run (Evaluator.ofFuel silent 20) (initial ()))

def outer : Value := .array ⟨1⟩

def error : Value := .object ⟨13⟩

/-- Items are older than the arrays that have them. -/
theorem arrays (r : ArrayRef) : ¬ Relation.TransGen machine.heap.IsItemOf r r := by
  have items : machine.heap.arrays = #[#[.string "1", .bool true], #[.array ⟨0⟩, .null]] := by decide +kernel
  have older {s r : ArrayRef} (item : machine.heap.IsItemOf s r) : s.index < r.index := by
    rw [Heap.IsItemOf, Heap.array, items] at item
    rcases r with ⟨_ | _ | n⟩
    · simp at item
    · obtain rfl : s = ⟨0⟩ := by simpa using item
      exact Nat.zero_lt_one
    · simp at item
  have founded : WellFounded machine.heap.IsItemOf := Subrelation.wf older (measure ArrayRef.index).wf
  exact fun cycle => founded.transGen.asymmetric r r cycle cycle

theorem prototypes (r : ObjectRef) : ¬ Relation.TransGen machine.heap.IsPrototypeOf r r := by
  have checked : machine.heap.isOrdered = true := by decide +kernel
  exact (Heap.ordered_of_isOrdered checked).acyclic r

end NestedItems

open NestedItems in
/-- The array is equal to the text of its items, and the error to the text of its name and its message. -/
theorem loose_equality_extends_strict_nested :
    (∀ r, ¬ Relation.TransGen machine.heap.IsItemOf r r) ∧ (∀ r, ¬ Relation.TransGen machine.heap.IsPrototypeOf r r) ∧
    machine.heap.Compares outer (.string "1,true,") true ∧
    machine.heap.Compares (.string "TypeError: x") error true ∧
    machine.heap.looseEquals error .null = false := by
  obtain ⟨compares, symmetric, -, nullish, -⟩ := Heap.loose_equality_extends_strict arrays prototypes
  refine ⟨arrays, prototypes, (compares _ _ _).2 ?_, (compares _ _ _).2 ?_, ?_⟩
  · decide +kernel
  · decide +kernel
  · rw [symmetric, nullish _ _ rfl]
    rfl

end ScriptCoverage.Machine
