import Mathlib.Dynamics.PeriodicPts.Defs
import ScriptCoverage.Proofs.Pattern.Searching

/-!
Stepping through a text with a regular expression that remembers where its last match ended. `Regex.after` is the
expression after a number of calls. Main statement: `Regex.stepping_ends` — the calls go strictly forward until one of
the first of them finds nothing, unless one finds the empty text at the end: behind that there is no position, so the
next call starts from the beginning again.
-/

namespace ScriptCoverage.Pattern.Regex

variable {r : Regex} {text source flags : String}

/-! ### One call -/

/-- A regular expression that was read has code that searches keep to, and is at the start. -/
theorem compile_sound (compiled : compile source flags = .ok r) : r.code.Sound ∧ r.lastIndex = 0 := by
  rw [compile] at compiled
  split at compiled
  · cases compiled
  · split at compiled
    · cases compiled
    · split at compiled
      · next code built =>
        cases compiled
        exact ⟨Code.compile?_sound built, rfl⟩
      · cases compiled

theorem exists_of_compile {p : Regex → Bool} (h : (compile source flags).toOption.any p) :
    ∃ r, compile source flags = .ok r ∧ p r = true := by
  cases made : compile source flags with
  | error _ => rw [made] at h; cases h
  | ok r => exact ⟨r, rfl, by rwa [made] at h⟩

theorem isEmpty_iff {s : Span} : s.isEmpty = true ↔ s.stop ≤ s.start := by
  rw [Span.isEmpty, Span.len, beq_iff_eq, Nat.sub_eq_zero_iff_le]

/-- The range of the empty text at the end. -/
def atEnd (text : String) : Span := ⟨text.utf8ByteSize, text.utf8ByteSize⟩

theorem nextOffset_append {pre post : List Char} (whole : text.toList = pre ++ post) :
    nextOffset text (Text.byteLength pre) = Text.byteLength pre + (post.head?.map Char.utf8Size).getD 1 := by
  unfold nextOffset
  split
  · next narrow =>
    cases post with
    | nil => rfl
    | cons c cs =>
      have one := Text.utf8Size_of_isNarrow narrow c (by rw [whole]; exact List.mem_append_right _ List.mem_cons_self)
      rw [List.head?_cons, Option.map_some, Option.getD_some, one]
  · rw [whole, Text.dropBytes?_append, Option.bind_some]

/-- Behind an empty match a search goes on one character further, or, at the end, where no text is. -/
theorem nextOffset_spec {b : Nat} (boundary : Text.IsBoundary text b) :
    b < nextOffset text b ∧
      (Text.IsBoundary text (nextOffset text b) ∨ b = text.utf8ByteSize ∧ text.utf8ByteSize < nextOffset text b) := by
  obtain ⟨pre, post, whole, rfl⟩ := Text.isBoundary_iff.1 boundary
  rw [nextOffset_append whole]
  cases post with
  | nil =>
    have size : Text.byteLength pre = text.utf8ByteSize := by rw [Text.utf8ByteSize_eq, whole, List.append_nil]
    rw [size]
    exact ⟨Nat.lt_succ_self _, .inr ⟨rfl, Nat.lt_succ_self _⟩⟩
  | cons c cs =>
    refine ⟨Nat.lt_add_of_pos_right c.utf8Size_pos, .inl (Text.isBoundary_iff.2 ⟨pre ++ [c], cs, ?_, ?_⟩)⟩
    · rw [whole, List.append_assoc]
      rfl
    · rw [Text.byteLength_append]
      rfl

/-- The position that a match leaves is strictly behind every place from which it can be found, but the start of the
text if the match is the empty text at the end. -/
theorem unitOf_behind {b : Nat} {w : Span} (here : Text.IsBoundary text b) (behind : b ≤ w.start)
    (order : w.start ≤ w.stop) (stops : Text.IsBoundary text w.stop) :
    let position := Text.unitOf text (if w.isEmpty then nextOffset text w.stop else w.stop)
    if w = atEnd text then position = 0
    else Text.unitOf text b < position ∧ position ≤ Text.unitCount text := by
  dsimp only
  obtain ⟨on, further⟩ := nextOffset_spec stops
  by_cases last : w = atEnd text
  · rw [if_pos last]
    subst last
    rw [if_pos (isEmpty_iff.2 (Nat.le_refl _))]
    exact Text.unitOf_eq_zero on
  · rw [if_neg last]
    split
    · next empty =>
      have same := Nat.le_antisymm (isEmpty_iff.1 empty) order
      rcases further with further | ⟨ends, -⟩
      · exact ⟨Text.unitOf_lt here further (by omega), Text.unitOf_le further⟩
      · exact absurd (congrArg₂ Span.mk (same.symm.trans ends) ends) last
    · next longer =>
      rw [isEmpty_iff] at longer
      exact ⟨Text.unitOf_lt here stops (by omega), Text.unitOf_le stops⟩

/-- A call that finds something goes strictly forward within the text, except where that is the empty text at the end:
then it goes back to the start. -/
theorem exec_position (sound : r.code.Sound) (stateful : r.isStateful) {g : Groups} {j : Nat}
    (found : r.exec text = (some g, j)) :
    if g.whole = atEnd text then j = 0 else r.lastIndex < j ∧ j ≤ Text.unitCount text := by
  rw [exec, if_pos stateful] at found
  split at found
  · cases found
  · next start from_ =>
    obtain ⟨pre, post, whole, units, rfl⟩ := Text.byteOf?_eq_some from_
    have here : Text.IsBoundary text (Text.byteLength pre) := Text.isBoundary_iff.2 ⟨pre, post, whole, rfl⟩
    split at found
    · cases found
    · next g' searched =>
      obtain ⟨behind, order, -, stops⟩ := Code.findFrom_whole sound searched
      split at found
      · cases found
      · cases found
        rw [← units, ← Text.unitOf_append whole]
        exact unitOf_behind here behind order stops

/-! ### Calls one after the other -/

/-- The expression after a call. -/
def next (text : String) (r : Regex) : Regex := { r with lastIndex := (r.exec text).2 }

/-- The expression after a number of calls on one text. -/
def after (r : Regex) (text : String) (k : Nat) : Regex := (next text)^[k] r

/-- Calls change the position only. -/
theorem after_eq (r : Regex) (text : String) (k : Nat) :
    r.after text k = { r with lastIndex := (r.after text k).lastIndex } := by
  induction k with
  | zero => rfl
  | succ k ih =>
    rw [after, Function.iterate_succ_apply', ← after, next, ih]

/-- From any position on the calls go strictly forward until one finds nothing or the empty text at the end, and no more
of them than there are units behind that position. -/
theorem exists_last_forward (sound : r.code.Sound) (stateful : r.isStateful) (text : String) :
    ∃ k ≤ Text.unitCount text - r.lastIndex,
      (∀ l < k, ((r.after text l).exec text).1.isSome ∧
        (r.after text l).lastIndex < (r.after text (l + 1)).lastIndex) ∧
      (((r.after text k).exec text).1 = none ∨
        ∃ g, (r.after text k).exec text = (some g, 0) ∧ g.whole = atEnd text) := by
  induction left : Text.unitCount text - r.lastIndex using Nat.strongRecOn generalizing r with
  | ind left_ ih =>
    subst left
    rcases called : r.exec text with ⟨_ | g, j⟩
    · exact ⟨0, Nat.zero_le _, fun l lt => absurd lt (Nat.not_lt_zero l), .inl (congrArg Prod.fst called)⟩
    · have position := exec_position sound stateful called
      split at position
      · next last =>
        subst position
        exact ⟨0, Nat.zero_le _, fun l lt => absurd lt (Nat.not_lt_zero l), .inr ⟨g, called, last⟩⟩
      · have moved : (next text r).lastIndex = j := congrArg Prod.snd called
        obtain ⟨k, few, forward, ends⟩ := ih _ (by rw [moved]; omega) (r := next text r) sound stateful rfl
        rw [moved] at few
        refine ⟨k + 1, by omega, fun l lt => ?_, ends⟩
        cases l with
        | zero => exact ⟨congrArg (·.1.isSome) called, position.1.trans_eq moved.symm⟩
        | succ l => exact forward l (Nat.lt_of_succ_lt_succ lt)

/-- Stepping through a text, for every regular expression that was read and remembers its position, and every text. A
call that finds something, from whatever position, goes strictly forward within the text, unless it finds the empty text
at the end: then the position is the start again. So at most as many calls as the text has units find something and go
strictly forward, before one that either finds nothing or finds the empty text at the end; in the latter case no call
ever finds nothing. -/
theorem stepping_ends (compiled : compile source flags = .ok r) (stateful : r.isStateful) (text : String) :
    (∀ i g j, exec { r with lastIndex := i } text = (some g, j) →
      if g.whole = atEnd text then j = 0 else i < j ∧ j ≤ Text.unitCount text) ∧
    ∃ k ≤ Text.unitCount text,
      (∀ l < k, ((r.after text l).exec text).1.isSome ∧
        (r.after text l).lastIndex < (r.after text (l + 1)).lastIndex) ∧
      (((r.after text k).exec text).1 = none ∨
        (∃ g, (r.after text k).exec text = (some g, 0) ∧ g.whole = atEnd text) ∧
          ∀ l, ((r.after text l).exec text).1.isSome) := by
  obtain ⟨sound, start⟩ := compile_sound compiled
  refine ⟨fun i g j => exec_position (r := { r with lastIndex := i }) sound stateful, ?_⟩
  obtain ⟨k, few, forward, ends⟩ := exists_last_forward sound stateful text
  refine ⟨k, few.trans (Nat.sub_le _ _), forward, ends.imp_right fun ⟨g, called, last⟩ => ⟨⟨g, called, last⟩, fun l => ?_⟩⟩
  -- behind the empty text at the end the calls begin again, so any call is one of the first ones
  have round : Function.IsPeriodicPt (next text) (k + 1) r := by
    rw [Function.IsPeriodicPt, Function.IsFixedPt, Function.iterate_succ_apply', ← after, next, called, after_eq, ← start]
  rw [after, ← round.iterate_mod_apply l, ← after]
  obtain before | now := Nat.lt_or_eq_of_le (Nat.le_of_lt_succ (Nat.mod_lt l (Nat.succ_pos k)))
  · exact (forward _ before).1
  · rw [now, called]
    rfl

/-- The letters `o` of a word. -/
theorem stepping_ends_letters :
    ∃ r, compile "o" "g" = .ok r ∧ r.isStateful = true ∧
      (∀ i g j, exec { r with lastIndex := i } "foo" = (some g, j) →
        if g.whole = atEnd "foo" then j = 0 else i < j ∧ j ≤ Text.unitCount "foo") ∧
      ∃ k ≤ Text.unitCount "foo",
        (∀ l < k, ((r.after "foo" l).exec "foo").1.isSome ∧
          (r.after "foo" l).lastIndex < (r.after "foo" (l + 1)).lastIndex) ∧
        (((r.after "foo" k).exec "foo").1 = none ∨
          (∃ g, (r.after "foo" k).exec "foo" = (some g, 0) ∧ g.whole = atEnd "foo") ∧
            ∀ l, ((r.after "foo" l).exec "foo").1.isSome) := by
  obtain ⟨r, compiled, stateful⟩ : ∃ r, compile "o" "g" = .ok r ∧ r.isStateful = true := exists_of_compile (by decide +kernel)
  exact ⟨r, compiled, stateful, stepping_ends compiled stateful "foo"⟩

/-- The empty text at the end of a word is found again and again. -/
theorem empty_match_repeats :
    ∃ r, compile "x*" "g" = .ok r ∧ r.isStateful = true ∧
      ∀ l < Text.unitCount "b" + 2, ((r.after "b" l).exec "b").1.isSome := by
  obtain ⟨r, compiled, holds⟩ : ∃ r, compile "x*" "g" = .ok r ∧
      (r.isStateful && (List.range (Text.unitCount "b" + 2)).all fun l => ((r.after "b" l).exec "b").1.isSome) = true :=
    exists_of_compile (by decide +kernel)
  rw [Bool.and_eq_true, List.all_eq_true] at holds
  exact ⟨r, compiled, holds.1, fun l lt => holds.2 l (List.mem_range.2 lt)⟩

end ScriptCoverage.Pattern.Regex
