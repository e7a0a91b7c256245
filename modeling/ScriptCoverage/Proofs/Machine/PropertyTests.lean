import ScriptCoverage.Proofs.Machine.Chains
import ScriptCoverage.Proofs.Machine.OwnCode

/-!
Tests for keys beside reads of properties. A key that the operator `in` does not find is looked up by reads all the same,
and `Heap.unlisted?` is what they may find: what a regular expression says of itself, and what a function inherits as its
prototype. Main statements: `unfound_keys_read` — a read of a key that was not found reads that property and nothing
else — and `read_keys_unfound` — two such keys.
-/

namespace ScriptCoverage.Machine

variable {σ : Type}

/-! ### Keys that are not found -/

namespace Heap

variable {h : Heap} {key : String}

theorem lookup?_eq_none {r : ObjectRef} (unfound : h.has r key = false) : h.lookup? r key = none := by
  rwa [has, Option.isSome_eq_false_iff, Option.isNone_iff_eq_none] at unfound

/-- What neither an object nor its prototypes have is not found from the object on. -/
theorem lookup?_eq_none_of_object {r : ObjectRef} (unfound : h.hasProperty (.object r) key = false) :
    h.lookup? r key = none := by
  obtain ⟨own, beyond⟩ := Bool.or_eq_false_iff.1 unfound
  have missed : (h.object r).property? key = none := by
    rw [Object.property?, Option.map_eq_none_iff]
    exact Option.isNone_iff_eq_none.1 (Option.isSome_eq_false_iff.1 own)
  have far : (h.chain (h.object r).proto).findSome? (fun p => (h.object p).property? key) = none := by
    cases proto : (h.object r).proto with
    | none => rw [chain]; cases h.objects.size <;> rfl
    | some p =>
      change (h.object r).proto.any (h.has · key) = false at beyond
      rw [proto] at beyond
      exact lookup?_eq_none beyond
  rw [lookup?, chain]
  rw [chain] at far
  cases size : h.objects.size with
  | zero => rfl
  | succ n =>
    rw [size] at far
    rw [chainWithin, List.findSome?_cons, missed]
    refine List.findSome?_eq_none_iff.2 fun p hp => ?_
    exact List.findSome?_eq_none_iff.1 far p ((h.chainWithin_isPrefix n _).subset hp)

end Heap

/-! ### Reads -/

/-- Whether reading a property gives `undefined` without a call. -/
def Property.isBlank : Property → Bool
  | .data v => v = .undefined
  | .accessor getter _ => getter.isNone

/-- What reads may find where the test for keys finds nothing: what a regular expression says of itself, and the property
with the name of the prototype of functions that a function inherits. -/
def Heap.unlisted? (h : Heap) (key : String) : Value → Option Property
  | .regex r => (Run.regexProperty? (h.regex r) key).map .data
  | .function _ => if key = "prototype" then h.lookup? functionPrototype key else none
  | _ => none

/-- A property reads as `undefined` however calls are made iff it is blank. -/
theorem readProperty_blank_iff (m : Machine σ) (receiver : Value) (p : Option Property) :
    (∀ call : Caller σ, Run.readProperty call receiver p m = .ok .undefined m) ↔ p.all Property.isBlank := by
  match p with
  | none | some (.accessor none _) => exact iff_of_true (fun _ => rfl) rfl
  | some (.data v) =>
    rw [Option.all_some, Property.isBlank, decide_eq_true_iff]
    constructor
    · intro reads
      injection reads fun _ _ _ => throw .stopped
    · rintro rfl _
      rfl
  | some (.accessor (some getter) _) =>
    refine iff_of_false (fun reads => ?_) nofun
    cases reads fun _ _ _ => throw .stopped

/-- A value that is read is no `undefined` of a blank property. -/
theorem not_isBlank_of_read {call : Caller σ} {m m' : Machine σ} {receiver w : Value} {p : Option Property}
    (read : Run.readProperty call receiver p m = .ok w m') (defined : w ≠ .undefined) :
    ∃ q, p = some q ∧ q.isBlank = false := by
  cases blank : p.all Property.isBlank with
  | true =>
    rw [(readProperty_blank_iff m receiver p).2 blank call] at read
    injection read with undefined
    exact absurd undefined.symm defined
  | false =>
    cases p with
    | none => cases blank
    | some q => exact ⟨q, rfl, blank⟩

section

variable {m : Machine σ} {key : String} (call : Caller σ)

theorem readInherited_unfound (receiver : Value) {proto : ObjectRef} (unfound : m.heap.has proto key = false) :
    Run.readInherited call receiver proto key m = .ok .undefined m := by
  change Run.readProperty call receiver (m.heap.lookup? proto key) m = _
  rw [Heap.lookup?_eq_none unfound]
  rfl

theorem readFunction_unfound {r : FunctionRef} (unfound : m.heap.hasProperty (.function r) key = false) :
    Run.readFunction call r key m = Run.readProperty call (.function r) (m.heap.unlisted? key (.function r)) m := by
  obtain ⟨found, beyond⟩ := Bool.or_eq_false_iff.1 unfound
  obtain ⟨builtIn, own⟩ := Bool.or_eq_false_iff.1 found
  obtain ⟨name, length⟩ := Bool.or_eq_false_iff.1 builtIn
  have missed : (m.heap.function r).properties.property? key = none := by
    rw [Object.property?, Option.map_eq_none_iff]
    exact Option.isNone_iff_eq_none.1 (Option.isSome_eq_false_iff.1 own)
  have read : Run.readFunction call r key m =
      if key = "prototype" && (m.heap.function r).kind.hasOwnPrototype then
        (do
          let proto ← Run.emptyObject
          Run.change (·.modifyProperties r (·.setHidden "prototype" proto))
          return proto : Run σ Value) m
      else Run.readInherited call (.function r) functionPrototype key m := by
    unfold Run.readFunction
    rw [Run.see_bind, missed]
    dsimp only
    rw [if_neg (by simpa using name), if_neg (by simpa using length)]
    split <;> rfl
  rw [read, Heap.unlisted?]
  dsimp only at beyond
  by_cases special : key = "prototype"
  · rw [if_pos special] at beyond ⊢
    rw [beyond, Bool.and_false, if_neg nofun]
    rfl
  · rw [if_neg special] at beyond ⊢
    rw [decide_eq_false special, Bool.false_and, if_neg nofun]
    exact readInherited_unfound call _ beyond

theorem readArray_unfound {r : ArrayRef} (unfound : m.heap.hasProperty (.array r) key = false) :
    Run.readArray call r key m = .ok .undefined m := by
  obtain ⟨found, beyond⟩ := Bool.or_eq_false_iff.1 unfound
  obtain ⟨length, items⟩ := Bool.or_eq_false_iff.1 found
  unfold Run.readArray
  rw [Run.see_bind, if_neg (by simpa using length)]
  cases position : positionOf? key with
  | none => exact readInherited_unfound call _ beyond
  | some i =>
    have behind : (m.heap.array r).size ≤ i := by simpa [position] using items
    change EStateM.Result.ok (Run.itemAt (m.heap.array r) i) m = _
    rw [Run.itemAt, Array.getElem?_eq_none behind]
    rfl

theorem readRegex_unfound {r : RegexRef} (unfound : m.heap.hasProperty (.regex r) key = false) :
    Run.readRegex call r key m = Run.readProperty call (.regex r) (m.heap.unlisted? key (.regex r)) m := by
  obtain ⟨-, beyond⟩ := Bool.or_eq_false_iff.1 unfound
  unfold Run.readRegex
  rw [Run.see_bind, Heap.unlisted?]
  cases Run.regexProperty? (m.heap.regex r) key with
  | some v => rfl
  | none => exact readInherited_unfound call _ beyond

/-- A read of a key that was not found reads what the test does not list. -/
theorem getProperty_unfound {v : Value} (object : v.isObject) (unfound : m.heap.hasProperty v key = false) :
    Run.getProperty call v key m = Run.readProperty call v (m.heap.unlisted? key v) m := by
  cases v with
  | object r =>
    change Run.readProperty call (.object r) (m.heap.lookup? r key) m = _
    rw [Heap.lookup?_eq_none_of_object unfound]
    rfl
  | function r => exact readFunction_unfound call unfound
  | array r => exact readArray_unfound call unfound
  | regex r => exact readRegex_unfound call unfound
  | undefined | null | bool | number | string => cases object

end

/-- Tests for keys and reads, on every machine, for every value on the heap and every key. The operator `in` says whether
a key is found, and a name in the statement of the value leads to it iff its key is found. A read of a key that is not
found changes nothing by itself and reads what is unlisted: it gives `undefined`, without a call, iff there is no such
property or that one is blank. So a key whose read gives another value than `undefined` is found, unless the value is a
regular expression that says something of itself under the key, or a function without a prototype of its own that
inherits something under the name of one. -/
theorem unfound_keys_read (m : Machine σ) {v : Value} (object : v.isObject = true) (key : String) :
    let found := m.heap.hasProperty v key
    let unlisted := m.heap.unlisted? key v
    (∀ call : Caller σ, Run.binary call (.string key) v .in_ m = .ok (.bool found) m) ∧
    (∀ r outer, (m.frame r).kind = .object v →
      m.resolve? (r :: outer) key = if found then some (.property v) else m.resolve? outer key) ∧
    (found = false →
      (∀ call : Caller σ, Run.getProperty call v key m = Run.readProperty call v unlisted m) ∧
      ((∀ call : Caller σ, Run.getProperty call v key m = .ok .undefined m) ↔ unlisted.all Property.isBlank)) ∧
    ∀ (call : Caller σ) w m', Run.getProperty call v key m = .ok w m' → w ≠ .undefined →
      found = true ∨ ∃ p, unlisted = some p ∧ p.isBlank = false := by
  intro found unlisted
  have reads (unfound : found = false) (call : Caller σ) :
      Run.getProperty call v key m = Run.readProperty call v unlisted m := getProperty_unfound call object unfound
  refine ⟨fun call => ?_, fun r outer kind => ?_, fun unfound => ⟨reads unfound, ?_⟩, fun call w m' read defined => ?_⟩
  · change (if v.isObject then _ else _ : Run σ Value) m = _
    rw [if_pos object]
    change EStateM.Result.ok (Value.bool (m.heap.hasProperty v (m.heap.text (.string key)))) m = _
    rw [Heap.text, Heap.textWithin]
  · rw [resolve?, resolveWith?, kind]
    rfl
  · simp only [reads unfound]
    exact readProperty_blank_iff m v unlisted
  · cases present : found with
    | true => exact .inl rfl
    | false =>
      rw [reads present] at read
      exact .inr (not_isBlank_of_read read defined)

/-! ### Keys of a function and of a regular expression -/

namespace Unfound

open Shadowing in
/-- The machine behind a script with an arrow, of which the function is the last one. -/
def machine : Machine Unit :=
  machineOf ((Task.eval "Object.prototype.prototype = 'old'; var f = () => 1;").run (Evaluator.ofFuel silent 20) (initial ()))

def arrow : Value := .function ⟨56⟩

end Unfound

open Unfound in
/-- Neither key is found on an arrow; the one is not there, and under the other the arrow inherits a text. -/
theorem unfound_keys_read_arrow :
    arrow.isObject = true ∧
    (machine.heap.hasProperty arrow "color" = false ∧
      ∀ call : Caller Unit, Run.getProperty call arrow "color" machine = .ok .undefined machine) ∧
    machine.heap.hasProperty arrow "prototype" = false ∧
      ∀ call : Caller Unit, Run.getProperty call arrow "prototype" machine = .ok (.string "old") machine := by
  have color : machine.heap.hasProperty arrow "color" = false := by decide +kernel
  have prototype : machine.heap.hasProperty arrow "prototype" = false := by decide +kernel
  have inherited : machine.heap.unlisted? "prototype" arrow = some (.data (.string "old")) := by decide +kernel
  obtain ⟨-, -, missing, -⟩ := unfound_keys_read machine (by rfl : arrow.isObject = true) "color"
  obtain ⟨-, -, unlisted, -⟩ := unfound_keys_read machine (by rfl : arrow.isObject = true) "prototype"
  refine ⟨rfl, ⟨color, (missing color).2.2 rfl⟩, prototype, fun call => ?_⟩
  rw [(unlisted prototype).1, inherited]
  rfl

open Shadowing in
/-- The pattern of a regular expression is read under a key that is not found, and so is what a function without a
prototype of its own inherits under that name. -/
theorem read_keys_unfound :
    value? ((Task.eval "('source' in /x/) || /x/.source === undefined").run (Evaluator.ofFuel silent 20) (initial ())) =
      some (.bool false) ∧
    value? ((Task.eval ("Object.prototype.prototype = 1; var f = () => 1; " ++
      "('prototype' in f) || f.prototype === undefined")).run (Evaluator.ofFuel silent 20) (initial ())) =
      some (.bool false) := by
  constructor
  · decide +kernel
  · decide +kernel

end ScriptCoverage.Machine
