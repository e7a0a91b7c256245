import Mathlib.Data.List.Basic
import ScriptCoverage.Coverage.Record
import ScriptCoverage.Proofs.Coverage.Insertion
import ScriptCoverage.Proofs.Table
import ScriptCoverage.Source.Script
import Std.Data.String.ToNat

/-!
The counters of a record under insertions, hits and regenerations in any order. A hit takes its range out of the
ranges that did not run, but an insertion puts every range that it lists back there, whether it ran or not. Main
statements: `in_both_maps_iff_listed_again` — which ranges are in which of the two tables, and which are in both —
and `hit_range_listed_again` — one that is.
-/

namespace ScriptCoverage

open Source (Script)

/-- Different ranges have different keys. -/
theorem Span.key_injective {s t : Span} (h : s.key = t.key) : s = t := by
  have digits (n : Nat) : ':' ∉ n.repr.toList := by
    intro hc
    rw [← Nat.toString_eq_repr, Nat.toString_eq_ofList_toDigits, String.toList_ofList] at hc
    exact absurd (Nat.isDigit_of_mem_toDigits (by decide) (by decide) hc) (by decide)
  have both : s.start.repr.toList ++ ':' :: s.stop.repr.toList = t.start.repr.toList ++ ':' :: t.stop.repr.toList := by
    have texts := congrArg String.toList h
    simpa [Span.key] using texts
  obtain ⟨start, -, stop⟩ := (List.append_cons_inj_of_notMem (digits t.start) (digits t.stop)).1 both.symm
  rw [String.toList_inj, Nat.repr_inj] at start stop
  cases s
  cases t
  exact congr (congrArg Span.mk start.symm) stop.symm

theorem Span.key_inj {s t : Span} : s.key = t.key ↔ s = t := ⟨Span.key_injective, congrArg Span.key⟩

namespace Record

/-- A hit counts its own range and no other one. -/
theorem count_hit (r : Record) (s t : Span) : (r.hit s).count t = r.count t + if s = t then 1 else 0 := by
  rw [count, hit, Table.get?_put]
  by_cases h : s = t
  · subst h
    rw [if_pos rfl, if_pos rfl]
    rfl
  · rw [if_neg fun keys => h (Span.key_injective keys), if_neg h]
    rfl

/-! ### Insertions -/

/-- Whether an insertion into the record would list a range: it belongs to a statement of a sequential body of the
tree, as far as there still is one. -/
def Lists (r : Record) (s : Span) : Prop := ∃ t, r.tree = some t ∧ s ∈ t.bodyRanges

theorem covered_foldl_addRange (r : Record) (ss : List Span) : (ss.foldl addRange r).covered = r.covered := by
  induction ss generalizing r with
  | nil => rfl
  | cons s ss ih => exact ih (r.addRange s)

theorem get?_uncovered_foldl_addRange (r : Record) (ss : List Span) (key : String) :
    (ss.foldl addRange r).uncovered.get? key =
      if key ∈ ss.map Span.key then some 0 else r.uncovered.get? key := by
  induction ss generalizing r with
  | nil => rfl
  | cons s ss ih =>
    rw [List.foldl_cons, ih, addRange, Table.get?_put]
    by_cases later : key ∈ ss.map Span.key
    · simp [later]
    · by_cases here : s.key = key
      · simp [here]
      · simp [later, here, Ne.symm here]

variable (r : Record) (recorder : Identifier) (s : Span)

@[simp]
theorem covered_insert : (r.insert recorder).covered = r.covered := by
  unfold insert
  split
  · rfl
  · exact covered_foldl_addRange _ _

theorem mem_ranges_insert : s ∈ (r.insert recorder).ranges ↔ s ∈ r.ranges ∨ r.Lists s := by
  unfold insert Lists
  cases r.tree with
  | none => simp
  | some t => simp [foldl_addRange_ranges]

/-- An insertion puts down every range that it lists as one that did not run. -/
theorem get?_uncovered_insert (key : String) [Decidable (∃ s, r.Lists s ∧ s.key = key)] :
    (r.insert recorder).uncovered.get? key =
      if ∃ s, r.Lists s ∧ s.key = key then some 0 else r.uncovered.get? key := by
  have listed (t : Script) (h : r.tree = some t) : (∃ s, r.Lists s ∧ s.key = key) ↔ key ∈ t.bodyRanges.map Span.key := by
    simp [Lists, h]
  unfold insert
  split
  · next h =>
    have none : ¬ ∃ s, r.Lists s ∧ s.key = key := by
      rintro ⟨s, ⟨t, ht, -⟩, -⟩
      cases h.symm.trans ht
    rw [if_neg none]
  · next t h =>
    rw [get?_uncovered_foldl_addRange]
    simp only [listed t h]

/-! ### Regenerations -/

@[simp]
theorem covered_regenerate : r.regenerate.covered = r.covered := by
  unfold regenerate
  split <;> rfl

@[simp]
theorem uncovered_regenerate : r.regenerate.uncovered = r.uncovered := by
  unfold regenerate
  split <;> rfl

@[simp]
theorem ranges_regenerate : r.regenerate.ranges = r.ranges := by
  unfold regenerate
  split <;> rfl

/-! ### Histories of a record -/

/-- What can be done to the record of a module. -/
inductive Action
  | insert (recorder : Identifier)
  | hit (s : Span)
  | regenerate
  deriving DecidableEq

def Action.apply (r : Record) : Action → Record
  | .insert recorder => r.insert recorder
  | .hit s => r.hit s
  | .regenerate => r.regenerate

/-- The record after one action behind the other. -/
def after (r : Record) (as : List Action) : Record := as.foldl Action.apply r

@[simp]
theorem after_nil : r.after [] = r := rfl

@[simp]
theorem after_concat (as : List Action) (a : Action) : r.after (as ++ [a]) = a.apply (r.after as) := by
  rw [after, List.foldl_append]
  rfl

/-- Whether a range was listed by an insertion and not hit behind it. -/
def ListedUnhit (as : List Action) : Prop :=
  ∃ before recorder later, as = before ++ .insert recorder :: later ∧ (r.after before).Lists s ∧ .hit s ∉ later

variable {r s}

theorem ListedUnhit.nil : ¬ r.ListedUnhit s [] := by
  rintro ⟨before, recorder, later, split, -⟩
  exact absurd (congrArg List.length split) (by simp)

/-- The last action either lists the range itself, or leaves it as listed unless it hits it. -/
theorem listedUnhit_concat {as : List Action} {a : Action} : r.ListedUnhit s (as ++ [a]) ↔
    ((∃ recorder, a = .insert recorder) ∧ (r.after as).Lists s) ∨ (r.ListedUnhit s as ∧ a ≠ .hit s) := by
  constructor
  · rintro ⟨before, recorder, later, split, lists, unhit⟩
    rcases List.eq_nil_or_concat later with rfl | ⟨later, b, rfl⟩
    · obtain ⟨rfl, last⟩ := List.append_inj' split rfl
      exact .inl ⟨⟨recorder, by simpa using last⟩, lists⟩
    · have split' : as ++ [a] = (before ++ .insert recorder :: later) ++ [b] := by simpa using split
      obtain ⟨rfl, last⟩ := List.append_inj' split' rfl
      obtain rfl : a = b := by simpa using last
      refine .inr ⟨⟨before, recorder, later, rfl, lists, fun h => unhit ?_⟩, fun h => unhit ?_⟩
      · simp [h]
      · simp [h]
  · rintro (⟨⟨recorder, rfl⟩, lists⟩ | ⟨⟨before, recorder, later, rfl, lists, unhit⟩, other⟩)
    · exact ⟨as, recorder, [], rfl, lists, by simp⟩
    · refine ⟨before, recorder, later ++ [a], by simp, lists, ?_⟩
      simp [unhit, Ne.symm other]

/-- A range that is listed and not hit behind it is among the ranges of the record. -/
theorem mem_ranges_apply {a : Action} :
    s ∈ (a.apply r).ranges ↔ s ∈ r.ranges ∨ (∃ recorder, a = .insert recorder) ∧ r.Lists s := by
  cases a with
  | insert recorder => simpa [Action.apply] using mem_ranges_insert r recorder s
  | hit t => simp [Action.apply, hit]
  | regenerate => simp [Action.apply]

theorem mem_ranges_of_listedUnhit {as : List Action} (h : r.ListedUnhit s as) : s ∈ (r.after as).ranges := by
  induction as using List.reverseRecOn with
  | nil => exact absurd h ListedUnhit.nil
  | append_singleton as a ih =>
    rw [after_concat, mem_ranges_apply]
    rcases listedUnhit_concat.1 h with now | ⟨before, -⟩
    · exact .inr now
    · exact .inl (ih before)

/-! ### Records of modules that were just read -/

section

variable (key component source : String) (t : Script) (as : List Action)

/-- The counters are those of the ranges that were hit, and say how often each of them was. -/
theorem get?_covered_after (name : String) (n : Nat) :
    ((ofScript key component source t).after as).covered.get? name = some n ↔
      n ≠ 0 ∧ ∃ s : Span, s.key = name ∧ n = as.count (.hit s) := by
  induction as using List.reverseRecOn generalizing name n with
  | nil =>
    rw [after_nil]
    refine iff_of_false (by simp [ofScript, Table.get?, Table.find?]) ?_
    rintro ⟨some, s, -, none⟩
    exact some none
  | append_singleton as a ih =>
    rw [after_concat]
    simp only [List.count_append]
    cases a with
    | insert recorder => simpa [Action.apply] using ih name n
    | regenerate => simpa [Action.apply] using ih name n
    | hit here =>
      -- The count that a hit finds is that of the hits before it.
      have before : ((ofScript key component source t).after as).count here = as.count (.hit here) := by
        rw [count]
        cases found : ((ofScript key component source t).after as).covered.get? here.key with
        | some n =>
          obtain ⟨-, s, same, counted⟩ := (ih _ n).1 found
          rw [counted, Span.key_injective same]
          rfl
        | none =>
          by_contra some
          have found' := (ih _ _).2 ⟨Ne.symm some, here, rfl, rfl⟩
          cases found.symm.trans found'
      rw [Action.apply, hit, Table.get?_put, before]
      split
      · next same =>
        constructor
        · intro h
          cases h
          exact ⟨by omega, here, same, by simp⟩
        · rintro ⟨-, s, hs, rfl⟩
          obtain rfl : here = s := Span.key_injective (same.trans hs.symm)
          simp
      · next other =>
        rw [ih]
        refine and_congr_right fun _ => exists_congr fun s => and_congr_right fun hs => ?_
        have others : here ≠ s := fun h => other (by rw [h, hs])
        simp [others]

/-- A range has a counter iff it was hit. -/
theorem covered_after (s : Span) :
    ((ofScript key component source t).after as).covered.contains s.key ↔ .hit s ∈ as := by
  rw [Table.contains_iff_get?]
  simp only [get?_covered_after]
  constructor
  · rintro ⟨n, some, s', same, rfl⟩
    rw [← Span.key_injective same]
    exact List.count_pos_iff.1 (Nat.pos_of_ne_zero some)
  · intro hit
    exact ⟨_, (List.count_pos_iff.2 hit).ne', s, rfl, rfl⟩

/-- A range counts as one that did not run iff an insertion listed it and it was not hit behind that. -/
theorem get?_uncovered_after (name : String) (n : Nat) :
    ((ofScript key component source t).after as).uncovered.get? name = some n ↔
      n = 0 ∧ ∃ s : Span, s.key = name ∧ (ofScript key component source t).ListedUnhit s as := by
  classical
  induction as using List.reverseRecOn with
  | nil =>
    rw [after_nil]
    refine iff_of_false (by simp [ofScript, Table.get?, Table.find?]) ?_
    rintro ⟨-, s, -, listed⟩
    exact ListedUnhit.nil listed
  | append_singleton as a ih =>
    rw [after_concat]
    simp only [listedUnhit_concat]
    cases a with
    | insert recorder =>
      rw [Action.apply, get?_uncovered_insert]
      split
      · next now =>
        obtain ⟨s, lists, rfl⟩ := now
        constructor
        · intro h
          cases h
          exact ⟨rfl, s, rfl, .inl ⟨⟨recorder, rfl⟩, lists⟩⟩
        · rintro ⟨rfl, -⟩
          rfl
      · next none =>
        -- an insertion that does not list the range leaves it as it was
        rw [ih]
        refine and_congr_right fun _ => exists_congr fun s => and_congr_right fun hs => ?_
        have unlisted : ¬ ((ofScript key component source t).after as).Lists s := fun lists => none ⟨s, lists, hs⟩
        simp [unlisted]
    | regenerate => simpa [Action.apply] using ih
    | hit hitten =>
      rw [Action.apply, hit, Table.get?_erase]
      split
      · next here =>
        -- a hit takes its range out, however often it was listed before
        refine iff_of_false (by simp) ?_
        rintro ⟨-, s, hs, ⟨⟨recorder, other⟩, -⟩ | ⟨-, other⟩⟩
        · cases other
        · exact other (congrArg Action.hit (Span.key_injective (here.trans hs.symm)))
      · next others =>
        rw [ih]
        refine and_congr_right fun _ => exists_congr fun s => and_congr_right fun hs => ?_
        have other : hitten ≠ s := fun same => others (by rw [same, hs])
        simp [other]

/-- What no insertion has listed since it was hit has been hit. -/
theorem mem_hit_or_listedUnhit {s : Span} (h : s ∈ ((ofScript key component source t).after as).ranges) :
    .hit s ∈ as ∨ (ofScript key component source t).ListedUnhit s as := by
  induction as using List.reverseRecOn with
  | nil => cases h
  | append_singleton as a ih =>
    rw [after_concat, mem_ranges_apply] at h
    rw [List.mem_append, listedUnhit_concat]
    rcases h with before | now
    · by_cases last : a = .hit s
      · exact .inl (.inr (by simp [last]))
      · exact (ih before).imp .inl fun listed => .inr ⟨listed, last⟩
    · exact .inr (.inl now)

end

/-- Every range of a module that was read is in one of the two tables, in that of the covered ones iff it was hit, and
all that is in the other one are ranges with the count zero. A range is in both of them iff an insertion listed it
behind a hit, and no other hit followed. -/
theorem in_both_maps_iff_listed_again (key component source : String) (t : Script) (as : List Action) :
    let r := (ofScript key component source t).after as
    (∀ s ∈ r.ranges, r.covered.contains s.key ∨ r.uncovered.contains s.key) ∧
      (∀ s, r.covered.contains s.key ↔ .hit s ∈ as) ∧
      (∀ name n, r.uncovered.get? name = some n → n = 0 ∧ ∃ s ∈ r.ranges, s.key = name) ∧
      ∀ s, (r.covered.contains s.key ∧ r.uncovered.contains s.key) ↔
        ∃ before recorder later, as = before ++ .insert recorder :: later ∧ .hit s ∈ before ∧
          ((ofScript key component source t).after before).Lists s ∧ .hit s ∉ later := by
  intro r
  have uncovered (s : Span) : r.uncovered.contains s.key ↔ (ofScript key component source t).ListedUnhit s as := by
    rw [Table.contains_iff_get?]
    simp only [r, get?_uncovered_after, exists_eq_left]
    constructor
    · rintro ⟨s', same, listed⟩
      exact Span.key_injective same ▸ listed
    · intro listed
      exact ⟨s, rfl, listed⟩
  refine ⟨fun s hs => ?_, covered_after key component source t as, fun name n hn => ?_, fun s => ?_⟩
  · rw [covered_after, uncovered]
    exact mem_hit_or_listedUnhit key component source t as hs
  · obtain ⟨zero, s, hs, listed⟩ := (get?_uncovered_after key component source t as name n).1 hn
    exact ⟨zero, s, mem_ranges_of_listedUnhit listed, hs⟩
  · rw [covered_after, uncovered]
    constructor
    · rintro ⟨hit, before, recorder, later, rfl, lists, unhit⟩
      have earlier : .hit s ∈ before := by simpa [unhit] using hit
      exact ⟨before, recorder, later, rfl, earlier, lists, unhit⟩
    · rintro ⟨before, recorder, later, rfl, hit, lists, unhit⟩
      exact ⟨List.mem_append_left _ hit, before, recorder, later, rfl, lists, unhit⟩

/-- Whether a text is read, and something holds of the tree. -/
def readsAs (source : String) (p : Script → Bool) : Bool :=
  match Script.parse source with
  | .ok t => p t
  | .error _ => false

theorem exists_of_readsAs {source : String} {p : Script → Bool} (h : readsAs source p = true) :
    ∃ t, Script.parse source = .ok t ∧ p t = true := by
  rw [readsAs] at h
  split at h
  · next t read => exact ⟨t, read, h⟩
  · cases h

/-- Whether a range of a record is in both of its tables. -/
def isInBoth (r : Record) (s : Span) : Bool :=
  r.ranges.contains s && r.covered.contains s.key && r.uncovered.contains s.key

/-- The only range of the module `a();` is in both tables if it is hit and the module is then instrumented, also if it
is then instrumented for the second time. -/
theorem hit_range_listed_again : ∃ t, Script.parse "a();" = .ok t ∧
    (((ofScript "m/index.js" "m" "a();" t).after [.hit ⟨0, 4⟩, .insert ⟨"cov", rfl⟩]).isInBoth ⟨0, 4⟩ &&
      ((ofScript "m/index.js" "m" "a();" t).after
        [.insert ⟨"cov", rfl⟩, .hit ⟨0, 4⟩, .insert ⟨"cov", rfl⟩]).isInBoth ⟨0, 4⟩) = true :=
  exists_of_readsAs (by decide +kernel)

end Record

end ScriptCoverage
