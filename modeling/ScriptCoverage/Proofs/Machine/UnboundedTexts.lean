import Mathlib.Data.List.Nodup
import ScriptCoverage.Machine.Conversion
import ScriptCoverage.Proofs.Machine.Chains

/-!
Texts of values as recursion gives them that nothing bounds: through the items of arrays, and through the prototypes of
objects for their names and messages (`Heap.Spells`). Where arrays do not contain themselves and prototypes have no
cycles, a way down repeats no place (`Below`), so it is no longer than there are places and the bounds of the heap are
never met. Main statement: `Heap.spells_iff` — the unbounded recursion ends for every value, with what `Heap.text` gives.
-/

namespace ScriptCoverage.Machine

/-! ### Ways down -/

section Below

variable {α : Type} (index : α → Nat) (size : Nat) (R : α → α → Prop)

/-- Whether a place lies below others, the nearest one first: they are there, no two of them the same, and `R` leads from
the place up to each of them. -/
structure Below (above : List α) (r : α) : Prop where
  distinct : above.Nodup
  there : ∀ p ∈ above, index p < size
  reaches : ∀ p ∈ above, Relation.TransGen R r p

variable {index size R} {above : List α} {r s : α}

theorem Below.top (r : α) : Below index size R [] r := ⟨List.nodup_nil, nofun, nofun⟩

variable (acyclic : ∀ r, ¬ Relation.TransGen R r r) (below : Below index size R above r) (there : index r < size)

include acyclic below there

theorem Below.down (step : R s r) : Below index size R (r :: above) s where
  distinct := List.nodup_cons.2 ⟨fun again => acyclic r (below.reaches r again), below.distinct⟩
  there := List.forall_mem_cons.2 ⟨there, below.there⟩
  reaches := List.forall_mem_cons.2 ⟨.single step, fun p hp => .head step (below.reaches p hp)⟩

/-- A place that is there is one more than those above it. -/
theorem Below.length_lt (injective : index.Injective) : above.length < size := by
  have distinct : (r :: above).Nodup :=
    List.nodup_cons.2 ⟨fun again => acyclic r (below.reaches r again), below.distinct⟩
  exact length_le_of_nodup injective distinct (List.forall_mem_cons.2 ⟨there, below.there⟩)

end Below

namespace Heap

/-- Whether an array is an item of another one. -/
def IsItemOf (h : Heap) (s r : ArrayRef) : Prop := .array s ∈ (h.array r).toList

/-- The text of an object for what searches for its name and its message give. -/
def wordsFor : Option Property → Option Property → String
  | some (.data (.string name)), some (.data (.string message)) => if message = "" then name else name ++ ": " ++ message
  | _, _ => "[object Object]"

mutual

/-- What recursion gives for the text of a value that nothing bounds. -/
inductive Spells (h : Heap) : Value → String → Prop
  | undefined : Spells h .undefined "undefined"
  | null : Spells h .null "null"
  | bool (b : Bool) : Spells h (.bool b) (if b then "true" else "false")
  | number (x : Float) : Spells h (.number x) (numberText x)
  | string (s : String) : Spells h (.string s) s
  | function (r : FunctionRef) : Spells h (.function r) ("function " ++ (h.function r).name ++ "() \x7b [native code] \x7d")
  | regex (r : RegexRef) : Spells h (.regex r) (h.regex r).shown
  | object {r : ObjectRef} {name message : Option Property}
    (names : h.Search (fun p => (h.object p).property? "name") (some r) name)
    (messages : h.Search (fun p => (h.object p).property? "message") (some r) message) :
    Spells h (.object r) (wordsFor name message)
  | array {r : ArrayRef} {texts : List String} (items : SpellsAll h (h.array r).toList texts) :
    Spells h (.array r) (",".intercalate texts)

/-- What it gives for items of an array, of which `undefined` and `null` are left blank. -/
inductive SpellsAll (h : Heap) : List Value → List String → Prop
  | nil : SpellsAll h [] []
  | blank {v : Value} {vs : List Value} {ts : List String} (nullish : v.isNullish = true) (rest : SpellsAll h vs ts) :
    SpellsAll h (v :: vs) ("" :: ts)
  | item {v : Value} {vs : List Value} {t : String} {ts : List String} (given : v.isNullish = false)
    (first : Spells h v t) (rest : SpellsAll h vs ts) : SpellsAll h (v :: vs) (t :: ts)

end

variable {h : Heap}

/-! ### One text at most -/

theorem Search.unique {β : Type} {find : ObjectRef → Option β} {start : Option ObjectRef} {b b' : Option β}
    (search : h.Search find start b) (other : h.Search find start b') : b = b' := by
  induction search with
  | ended => cases other; rfl
  | found here =>
    cases other with
    | found here' => exact here.symm.trans here'
    | onward missed => rw [here] at missed; cases missed
  | onward missed _ ih =>
    cases other with
    | found here => rw [missed] at here; cases here
    | onward _ rest => exact ih rest

mutual

theorem Spells.unique : ∀ {v : Value} {t t' : String}, h.Spells v t → h.Spells v t' → t = t'
  | _, _, _, .undefined, .undefined => rfl
  | _, _, _, .null, .null => rfl
  | _, _, _, .bool _, .bool _ => rfl
  | _, _, _, .number _, .number _ => rfl
  | _, _, _, .string _, .string _ => rfl
  | _, _, _, .function _, .function _ => rfl
  | _, _, _, .regex _, .regex _ => rfl
  | _, _, _, .object names messages, .object names' messages' => by
    rw [names.unique names', messages.unique messages']
  | _, _, _, .array items, .array items' => by rw [SpellsAll.unique items items']

theorem SpellsAll.unique : ∀ {vs : List Value} {ts ts' : List String}, h.SpellsAll vs ts → h.SpellsAll vs ts' → ts = ts'
  | _, _, _, .nil, .nil => rfl
  | _, _, _, .blank _ rest, .blank _ rest' => by rw [SpellsAll.unique rest rest']
  | _, _, _, .blank nullish _, .item given _ _ => by rw [nullish] at given; cases given
  | _, _, _, .item given _ _, .blank nullish _ => by rw [nullish] at given; cases given
  | _, _, _, .item _ first rest, .item _ first' rest' => by
    rw [Spells.unique first first', SpellsAll.unique rest rest']

end

/-! ### Searches -/

theorem array_eq_empty {r : ArrayRef} (missing : h.arrays.size ≤ r.index) : h.array r = #[] := by
  rw [array, Array.getElem?_eq_none missing]
  rfl

theorem object_eq_empty {r : ObjectRef} (missing : h.objects.size ≤ r.index) : h.object r = {} := by
  rw [object, Array.getElem?_eq_none missing]
  rfl

/-- A bounded search gives what an unbounded one does as long as the bound leaves room for all objects that the search
has not come by. -/
theorem search_chainWithin (acyclic : ∀ r, ¬ Relation.TransGen h.IsPrototypeOf r r) {β : Type}
    {find : ObjectRef → Option β} (missing : ∀ r, h.objects.size ≤ r.index → find r = none) (n : Nat)
    (above : List ObjectRef) (room : h.objects.size ≤ above.length + n) (start : Option ObjectRef)
    (below : ∀ r, start = some r → Below ObjectRef.index h.objects.size h.IsPrototypeOf above r) :
    h.Search find start ((h.chainWithin n start).findSome? find) := by
  have injective : ObjectRef.index.Injective := fun ⟨_⟩ ⟨_⟩ same => congrArg ObjectRef.mk same
  induction n generalizing above start with
  | zero =>
    cases start with
    | none => exact .ended
    | some r =>
      have outside : h.objects.size ≤ r.index := Nat.le_of_not_lt fun there => by
        have := (below r rfl).length_lt acyclic there injective
        omega
      refine .onward (missing r outside) ?_
      rw [object_eq_empty outside]
      exact .ended
  | succ n ih =>
    cases start with
    | none => exact .ended
    | some r =>
      rw [chainWithin, List.findSome?_cons]
      cases here : find r with
      | some b => exact .found here
      | none =>
        refine .onward here (ih (r :: above) (by rw [List.length_cons]; omega) _ fun p linked => ?_)
        have there : r.index < h.objects.size := Nat.lt_of_not_le fun outside => by
          rw [object_eq_empty outside] at linked
          cases linked
        exact (below r rfl).down acyclic there linked

theorem search_lookup? (acyclic : ∀ r, ¬ Relation.TransGen h.IsPrototypeOf r r) (r : ObjectRef) (key : String) :
    h.Search (fun p => (h.object p).property? key) (some r) (h.lookup? r key) := by
  refine search_chainWithin acyclic (fun p outside => ?_) _ [] (Nat.le_add_left _ _) _ fun r _ => .top r
  rw [object_eq_empty outside]
  rfl

/-! ### Texts -/

theorem exists_of_isArray {v : Value} (array : v.isArray = true) : ∃ r, v = .array r := by
  cases v with
  | array r => exact ⟨r, rfl⟩
  | _ => cases array

/-- What is no array has its text without a look at other values. -/
theorem spells_of_single (prototypes : ∀ r, ¬ Relation.TransGen h.IsPrototypeOf r r) {v : Value}
    (single : v.isArray = false) (n : Nat) : h.Spells v (h.textWithin n v) := by
  rw [show h.textWithin n v = h.textWithin 0 v by cases v <;> cases n <;> first | rfl | cases single]
  cases v with
  | array r => cases single
  | object r => exact .object (search_lookup? prototypes r _) (search_lookup? prototypes r _)
  | undefined => exact .undefined
  | null => exact .null
  | bool b => exact .bool b
  | number x => exact .number x
  | string s => exact .string s
  | function r => exact .function r
  | regex r => exact .regex r

theorem spellsAll_of_forall {text : Value → String} {vs : List Value} (spells : ∀ v ∈ vs, h.Spells v (text v)) :
    h.SpellsAll vs (vs.map fun v => if v.isNullish then "" else text v) := by
  induction vs with
  | nil => exact .nil
  | cons v vs ih =>
    obtain ⟨first, rest⟩ := List.forall_mem_cons.1 spells
    rw [List.map_cons]
    cases nullish : v.isNullish with
    | true => exact .blank nullish (ih rest)
    | false => exact .item nullish first (ih rest)

section

variable (arrays : ∀ r, ¬ Relation.TransGen h.IsItemOf r r) (prototypes : ∀ r, ¬ Relation.TransGen h.IsPrototypeOf r r)

include arrays prototypes

/-- The bounded recursion gives what the unbounded one does as long as the bound leaves room for all arrays that are not
open. -/
theorem spells_textWithin (n : Nat) (above : List ArrayRef) (room : h.arrays.size ≤ above.length + n) (v : Value)
    (below : ∀ r, v = .array r → Below ArrayRef.index h.arrays.size h.IsItemOf above r) :
    h.Spells v (h.textWithin n v) := by
  have injective : ArrayRef.index.Injective := fun ⟨_⟩ ⟨_⟩ same => congrArg ArrayRef.mk same
  induction n generalizing above v with
  | zero =>
    cases single : v.isArray with
    | false => exact spells_of_single prototypes single 0
    | true =>
      obtain ⟨r, rfl⟩ := exists_of_isArray single
      have outside : h.arrays.size ≤ r.index := Nat.le_of_not_lt fun there => by
        have := (below r rfl).length_lt arrays there injective
        omega
      have empty : h.SpellsAll (h.array r).toList [] := by
        rw [array_eq_empty outside]
        exact .nil
      exact .array empty
  | succ n ih =>
    cases single : v.isArray with
    | false => exact spells_of_single prototypes single (n + 1)
    | true =>
      obtain ⟨r, rfl⟩ := exists_of_isArray single
      -- An array that is there is the next one above its items; one that is not has none.
      refine .array (spellsAll_of_forall fun v item => ?_)
      refine ih (r :: above) (by rw [List.length_cons]; omega) v fun s nested => ?_
      subst nested
      have there : r.index < h.arrays.size := Nat.lt_of_not_le fun outside => by
        rw [array_eq_empty outside] at item
        cases item
      exact (below r rfl).down arrays there item

/-- The recursion ends for every value, with the text that the heap gives. -/
theorem spells_iff (v : Value) (t : String) : h.Spells v t ↔ t = h.text v := by
  have ends : h.Spells v (h.text v) :=
    spells_textWithin arrays prototypes _ [] (Nat.le_add_left _ _) v fun r _ => .top r
  exact ⟨fun spells => spells.unique ends, fun same => same ▸ ends⟩

end

end Heap

end ScriptCoverage.Machine
