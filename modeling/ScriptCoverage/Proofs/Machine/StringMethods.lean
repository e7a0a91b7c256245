import ScriptCoverage.Machine.Builtin
import ScriptCoverage.Machine.Expression
import ScriptCoverage.Proofs.Machine.OwnCode
import ScriptCoverage.Proofs.Text.Occurrences
import ScriptCoverage.Proofs.Text.Pairs

/-!
Methods of strings that cut and search. Main statements: `cut_and_rejoined` — what `split` and `slice` cut is the text
again when it is put together, except for a character that was cut between its two units — and `index_of_finds_first` —
`indexOf` finds the first place at or behind the position that it counts from, which for a negative argument is counted
from the end.
-/

namespace ScriptCoverage.Machine

variable {σ : Type}

open Text (OccursAt byteOf? ofUnits replacement splitBy unitCount unitLength unitSize unitsOf unpaired)

/-! ### Positions -/

namespace Heap

theorem text_string (h : Heap) (s : String) : h.text (.string s) = s := by rw [text, textWithin]

theorem relativeIndex_le (h : Heap) (v : Value) {length default : Nat} (le : default ≤ length) :
    h.relativeIndex v length default ≤ length := by
  unfold relativeIndex
  split
  · exact le
  · dsimp only
    split
    · split <;> omega
    · split <;> omega

theorem relativeIndex_number (h : Heap) (x : Float) (length default default' : Nat) :
    h.relativeIndex (.number x) length default = h.relativeIndex (.number x) length default' := by
  rw [relativeIndex, relativeIndex, if_neg nofun, if_neg nofun]

theorem relativeIndex_zero (h : Heap) (length default : Nat) : h.relativeIndex (.number 0) length default = 0 := by
  have zero : truncate? 0 = some 0 := by decide +kernel
  rw [relativeIndex, if_neg nofun]
  dsimp only [number]
  rw [zero]
  exact Nat.zero_min length

/-- Positions that are not negative count from the start, in the way in which all positions of `substring` do. -/
theorem relativeIndex_of_not_negative (h : Heap) (v : Value) (length default : Nat)
    (notNegative : ∀ n, truncate? (h.number v) = some n → 0 ≤ n) :
    h.relativeIndex v length default = h.clampedIndex v length default := by
  unfold relativeIndex clampedIndex
  dsimp only
  split
  · rfl
  · cases whole : truncate? (h.number v) with
    | some n =>
      dsimp only
      exact if_neg (Int.not_lt.2 (notNegative n whole))
    | none => rfl

/-- Negative ones count from the end, where those of `substring` are the start. -/
theorem index_of_negative (h : Heap) {v : Value} (length default : Nat) {n : Int} (whole : truncate? (h.number v) = some n)
    (negative : n < 0) :
    h.relativeIndex v length default = (length + n).toNat ∧ h.clampedIndex v length default = 0 := by
  have given : v ≠ .undefined := by
    rintro rfl
    have none : truncate? notANumber = none := by decide +kernel
    exact Option.some_ne_none n (whole.symm.trans none)
  rw [relativeIndex, clampedIndex, if_neg given, if_neg given]
  dsimp only
  rw [whole]
  dsimp only
  rw [if_pos negative, Int.toNat_of_nonpos (Int.le_of_lt negative)]
  exact ⟨rfl, Nat.zero_min length⟩

end Heap

/-! ### Cutting -/

/-- With nothing in between lists are only put behind each other. -/
theorem intercalate_nil_left {α : Type} (ls : List (List α)) : ([] : List α).intercalate ls = ls.flatten := by
  induction ls with
  | nil => rfl
  | cons l ls ih =>
    cases ls with
    | nil => rw [List.intercalate_singleton, List.flatten_cons, List.flatten_nil, List.append_nil]
    | cons l' ls => rw [List.intercalate_cons_cons, ih, List.append_nil, ← List.flatten_cons]

/-- The parts of a text between occurrences of another one, or its units if that is empty. -/
def partsOf (s t : String) : List String :=
  if t = "" then (unitsOf s.toList).map fun u => ofUnits [u] else (splitBy t.toList s.toList).map String.ofList

theorem intercalate_partsOf (s t : String) : t.intercalate (partsOf s t) = if t = "" then unpaired s else s := by
  apply String.toList_inj.1
  rw [String.toList_intercalate, partsOf]
  split
  · next empty =>
    subst empty
    have spelled : (String.toList ∘ fun u => ofUnits [u]) = fun u => Text.charsOfUnits [u] :=
      funext fun u => String.toList_ofList
    rw [List.map_map, spelled, unpaired, ← Text.flatMap_unitsOf, List.flatMap_def]
    exact (intercalate_nil_left _).trans String.toList_ofList.symm
  · next given =>
    have chars : String.toList ∘ String.ofList = id := funext fun _ => String.toList_ofList
    rw [List.map_map, chars, List.map_id]
    refine Text.intercalate_splitBy (fun none => given ?_) _
    exact String.toList_inj.1 none

variable (call : Caller σ) (m : Machine σ)

/-- A machine with one more array. -/
def withArray (items : List Value) : Machine σ := { m with heap := (m.heap.addArray items.toArray).2 }

theorem array_withArray (items : List Value) :
    ((m.withArray items).heap.array ⟨m.heap.arrays.size⟩).toList = items := by
  rw [Heap.array, withArray, Heap.addArray, Array.getElem?_push_size]
  rfl

theorem split_eq (s t : String) :
    Run.builtin call (.string s) [.string t] (.string .split) m =
      .ok (.array ⟨m.heap.arrays.size⟩) (m.withArray ((partsOf s t).map .string)) := by
  have parts : (Run.splitText s (.string t) : Run σ (List String)) m = .ok (partsOf s t) m := by
    change (if m.heap.text (.string t) = "" then _ else _ : Run σ (List String)) m = _
    rw [Heap.text_string, partsOf]
    split
    · rfl
    · change EStateM.Result.ok ((splitBy (m.heap.text (.string t)).toList s.toList).map String.ofList) m = _
      rw [Heap.text_string]
  change (Run.splitText (m.heap.text (.string s)) (.string t) >>= fun parts => Run.newArray (parts.map Value.string)) m = _
  rw [Heap.text_string]
  exact Run.bind_eq_ok_iff.2 ⟨_, _, parts, rfl⟩

theorem join_eq (items : List String) (t : String) :
    Run.builtin call (.array ⟨m.heap.arrays.size⟩) [.string t] (.array .join) (m.withArray (items.map .string)) =
      .ok (.string (t.intercalate items)) (m.withArray (items.map .string)) := by
  have own (h : Heap) : (h.text ∘ Value.string) = id := funext h.text_string
  change EStateM.Result.ok (Value.string (Heap.joined _ (Heap.text _ (.string t)) (Heap.array _ _).toList)) _ = _
  rw [Heap.text_string, array_withArray, Heap.joined, List.map_map]
  change EStateM.Result.ok (Value.string (t.intercalate (items.map (Heap.text _ ∘ Value.string)))) _ = _
  rw [own, List.map_id]

theorem slice_eq (s : String) (args : List Value) :
    Run.builtin call (.string s) args (.string .slice) m =
      .ok (.string (Text.unitSlice s (m.heap.relativeIndex (Value.argument args 0) (unitCount s) 0)
        (m.heap.relativeIndex (Value.argument args 1) (unitCount s) (unitCount s)))) m := by
  change Run.onText call (m.heap.text (.string s)) args .slice m = _
  rw [Heap.text_string]
  rfl

theorem index_of_eq (s : String) (args : List Value) :
    Run.builtin call (.string s) args (.string .indexOf) m =
      .ok (match Text.find? (m.heap.text (Value.argument args 0)) s
          (m.heap.relativeIndex (Value.argument args 1) (unitCount s) 0) with
        | some i => .ofNat i
        | none => .number (-1)) m := by
  change Run.onText call (m.heap.text (.string s)) args .indexOf m = _
  rw [Heap.text_string]
  rfl

/-! ### Putting together again -/

theorem add_eq (s t : String) : Run.binary call (.string s) (.string t) .add m = .ok (.string (s ++ t)) m := by
  change EStateM.Result.ok (Value.string (s ++ m.heap.text (.string t))) m = _
  rw [Heap.text_string]

/-- What `slice` leaves of a text in front of a position and from it on. -/
theorem slices_eq (s : String) (k : Float) :
    let i := m.heap.relativeIndex (.number k) (unitCount s) 0
    Run.builtin call (.string s) [.number 0, .number k] (.string .slice) m =
        .ok (.string (ofUnits ((unitsOf s.toList).take i))) m ∧
      Run.builtin call (.string s) [.number k] (.string .slice) m =
        .ok (.string (ofUnits ((unitsOf s.toList).drop i))) m := by
  intro i
  have length : (unitsOf s.toList).length = unitCount s := by rw [Text.length_unitsOf, Text.unitCount_eq]
  constructor
  · rw [slice_eq, Text.unitSlice_eq]
    change EStateM.Result.ok (Value.string (ofUnits (Text.cutUnits _ (m.heap.relativeIndex (.number 0) _ _)
      (m.heap.relativeIndex (.number k) _ _)))) m = _
    rw [Heap.relativeIndex_zero, Heap.relativeIndex_number _ k _ _ 0]
    rfl
  · rw [slice_eq, Text.unitSlice_eq]
    change EStateM.Result.ok (Value.string (ofUnits (Text.cutUnits _ i (unitCount s)))) m = _
    rw [Text.cutUnits, List.take_of_length_le (Nat.le_of_eq length)]

/-- The parts of a text, joined, are the text, except that each character of two units has come apart where the text was
split into its units. The slices of a text in front of a position and from it on, added up, are the text, unless the
position lies in between the units of a character, which has come apart then. -/
theorem cut_and_rejoined (s t : String) (k : Float) :
    (∃ r m', Run.builtin call (.string s) [.string t] (.string .split) m = .ok (.array r) m' ∧
      Run.builtin call (.array r) [.string t] (.array .join) m' = .ok (.string (if t = "" then unpaired s else s)) m') ∧
    (unpaired s = s ↔ ∀ c ∈ s.toList, unitSize c = 1) ∧
    ∃ left right,
      Run.builtin call (.string s) [.number 0, .number k] (.string .slice) m = .ok (.string left) m ∧
      Run.builtin call (.string s) [.number k] (.string .slice) m = .ok (.string right) m ∧
      Run.binary call (.string left) (.string right) .add m = .ok (.string (left ++ right)) m ∧
      let i := m.heap.relativeIndex (.number k) (unitCount s) 0
      (left ++ right = s ↔ (byteOf? s i).isSome) ∧
      (byteOf? s i = none → ∃ pre c post, s.toList = pre ++ c :: post ∧ unitSize c = 2 ∧ i = unitLength pre + 1 ∧
        left ++ right = String.ofList (pre ++ [replacement, replacement] ++ post)) := by
  obtain ⟨front, back⟩ := slices_eq call m s k
  refine ⟨⟨_, _, split_eq call m s t, ?_⟩, Text.unpaired_eq_iff s, _, _, front, back, add_eq call m _ _, ?_⟩
  · rw [join_eq, intercalate_partsOf]
  · intro i
    rcases Text.ofUnits_cut s (m.heap.relativeIndex_le (.number k) (Nat.zero_le (unitCount s))) with
      ⟨boundary, whole⟩ | ⟨pre, c, post, chars, two, place, between, apart⟩
    · exact ⟨iff_of_true whole boundary, fun none => by rw [none] at boundary; cases boundary⟩
    · refine ⟨iff_of_false (fun whole => ?_) (by rw [between]; nofun), fun _ => ⟨pre, c, post, chars, two, place, apart⟩⟩
      have length := congrArg (List.length ∘ String.toList) (apart.symm.trans whole)
      rw [Function.comp_apply, Function.comp_apply, String.toList_ofList, chars] at length
      simp at length

/-- A character of two units, split off and sliced through. -/
theorem pair_comes_apart :
    value? ((Task.eval "'😀'.split('').join('')").run (Evaluator.ofFuel Shadowing.silent 20) (initial ())) =
      some (.string "\ufffd\ufffd") ∧
    value? ((Task.eval "'😀'.slice(0, 1) + '😀'.slice(1)").run (Evaluator.ofFuel Shadowing.silent 20) (initial ())) =
      some (.string "\ufffd\ufffd") ∧
    (Value.string "\ufffd\ufffd").strictEquals (.string "😀") = false := by
  decide +kernel

/-! ### Searching -/

/-- A search of a text gives the first place of another one at or behind the position that it starts at, and `-1` if there
is none. That is the position that is meant, moved into the text, unless it is negative: then it counts from the end. -/
theorem index_of_finds_first (s : String) (args : List Value) :
    let needle := m.heap.text (Value.argument args 0)
    let position := Value.argument args 1
    let start := m.heap.relativeIndex position (unitCount s) 0
    let clamped := m.heap.clampedIndex position (unitCount s) 0
    let result := Run.builtin call (.string s) args (.string .indexOf) m
    ((∃ i, start ≤ i ∧ OccursAt (unitsOf needle.toList) (unitsOf s.toList) i ∧
        (∀ j, start ≤ j → j < i → ¬ OccursAt (unitsOf needle.toList) (unitsOf s.toList) j) ∧
        result = .ok (.ofNat i) m) ∨
      (∀ i, start ≤ i → ¬ OccursAt (unitsOf needle.toList) (unitsOf s.toList) i) ∧ result = .ok (.number (-1)) m) ∧
    (needle = "" → result = .ok (.ofNat start) m) ∧
    ((∀ n, truncate? (m.heap.number position) = some n → 0 ≤ n) → start = clamped) ∧
    (∀ n, truncate? (m.heap.number position) = some n → n < 0 → start = (unitCount s + n).toNat ∧ clamped = 0) := by
  intro needle position start clamped result
  have inside : start ≤ (unitsOf s.toList).length := by
    rw [Text.length_unitsOf, ← Text.unitCount_eq]
    exact m.heap.relativeIndex_le position (Nat.zero_le _)
  have found := index_of_eq call m s args
  rw [Text.find?_eq] at found
  refine ⟨?_, fun empty => ?_, m.heap.relativeIndex_of_not_negative position _ 0,
    fun n whole negative => m.heap.index_of_negative _ 0 whole negative⟩
  · cases place : Text.findIn? (unitsOf needle.toList) (unitsOf s.toList) start with
    | some i =>
      rw [place] at found
      obtain ⟨le, occurs, first⟩ := Text.findIn?_eq_some inside place
      exact .inl ⟨i, le, occurs, first, found⟩
    | none =>
      rw [place] at found
      exact .inr ⟨fun i le => Text.findIn?_eq_none inside place le, found⟩
  · have none : unitsOf needle.toList = [] := by
      rw [empty]
      rfl
    rw [none, Text.findIn?_nil inside] at found
    exact found

/-- A search from a negative position passes over a place behind the start. -/
theorem search_from_end :
    value? ((Task.eval "'abc'.indexOf('a', -1)").run (Evaluator.ofFuel Shadowing.silent 20) (initial ())) =
      some (.number (-1)) ∧
    (initial ()).heap.clampedIndex (.number (-1)) (unitCount "abc") 0 = 0 ∧
    OccursAt (unitsOf "a".toList) (unitsOf "abc".toList) 0 := by
  refine ⟨?_, ?_, ?_⟩
  · decide +kernel
  · decide +kernel
  · exact ⟨by decide, by decide⟩

end ScriptCoverage.Machine
