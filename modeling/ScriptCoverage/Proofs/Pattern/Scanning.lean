import ScriptCoverage.Proofs.Pattern.Searching

/-!
All matches of a pattern in a text. A scan goes on behind each match that it found, until it finds no more (`Code.Scans`).
Main statement: `Code.findAll_scans` — the bound on the number of matches is never reached before that.
-/

namespace ScriptCoverage.Pattern

variable {code : Code} {text : String} {at_ : At} {g : Groups} {lastStop : Option Nat}

/-! ### Going on behind a match -/

theorem At.exists_behind? (before : Option Char) (offset : Nat) (pre post : List Char) :
    ∃ last, At.behind? before offset (pre ++ post) (Text.byteLength pre) =
      some ⟨last, offset + Text.byteLength pre, post⟩ := by
  induction pre generalizing before offset with
  | nil => exact ⟨before, by cases post <;> rfl⟩
  | cons c pre ih =>
    obtain ⟨last, eq⟩ := ih (some c) (offset + c.utf8Size)
    obtain ⟨n, size⟩ : ∃ n, Text.byteLength (c :: pre) = n + 1 :=
      ⟨Text.byteLength (c :: pre) - 1, by have := c.utf8Size_pos; rw [Text.byteLength]; omega⟩
    refine ⟨last, ?_⟩
    rw [size, List.cons_append, At.behind?, ← size, Text.byteLength, if_pos (Nat.le_add_right _ _),
      Nat.add_sub_cancel_left, eq, Nat.add_assoc]
    exact Nat.succ_ne_zero n

/-- Behind a match there is a place to go on at. -/
theorem Groups.IsFound.forward (found : g.IsFound text at_.offset) (here : IsAt text at_.offset at_.rest) :
    ∃ behind, at_.forward? (g.whole.stop - at_.offset) = some behind ∧ behind.offset = g.whole.stop ∧
      IsAt text behind.offset behind.rest ∧ behind.rest.length ≤ at_.rest.length ∧
      (at_.offset < g.whole.stop → behind.rest.length < at_.rest.length) := by
  obtain ⟨gap, whole, behind, rest, range, -, further⟩ := found.parts here
  obtain ⟨last, eq⟩ := At.exists_behind? at_.before at_.offset (gap ++ whole) behind
  have size : g.whole.stop - at_.offset = Text.byteLength (gap ++ whole) := by
    rw [range, Text.byteLength_append]
    dsimp only
    omega
  have place : at_.offset + Text.byteLength (gap ++ whole) = g.whole.stop := by
    rw [range, Text.byteLength_append, Nat.add_assoc]
  have length : at_.rest.length = (gap ++ whole).length + behind.length := by
    rw [rest, List.length_append]
  refine ⟨⟨last, at_.offset + Text.byteLength (gap ++ whole), behind⟩, ?_, place, ?_, ?_, fun onward => ?_⟩
  · rw [At.forward?, size, rest]
    exact eq
  · rw [place]
    exact further
  · rw [length]
    exact Nat.le_add_left _ _
  · have given : gap ++ whole ≠ [] := by
      intro none
      rw [none] at place
      exact absurd place (Nat.ne_of_lt onward)
    have := List.length_pos_iff.2 given
    rw [length]
    exact Nat.lt_add_of_pos_left this

namespace Code

/-- The next match of a scan at a place. An empty match right behind another match does not count. -/
def nextMatch? (code : Code) (lastStop : Option Nat) (at_ : At) : Option Groups :=
  (code.findAt at_).bind fun g =>
    if g.whole.isEmpty && some g.whole.stop == lastStop then at_.next?.bind code.findAt else some g

/-- Whether matches are those of a scan from a place on, behind the end of a match: each is the next one behind that before
it, and behind the last one there is none. -/
inductive Scans (code : Code) : Option Nat → At → List Groups → Prop
  | ended {lastStop : Option Nat} {at_ : At} (none : code.nextMatch? lastStop at_ = none) : Scans code lastStop at_ []
  | found {lastStop : Option Nat} {at_ behind : At} {g : Groups} {gs : List Groups}
      (next : code.nextMatch? lastStop at_ = some g)
      (onward : at_.forward? (g.whole.stop - at_.offset) = some behind)
      (rest : Scans code (some g.whole.stop) behind gs) : Scans code lastStop at_ (g :: gs)

section

variable (sound : code.Sound) (here : IsAt text at_.offset at_.rest)

include sound here

/-- A scan that is behind a match finds one that ends further on. -/
theorem nextMatch?_isFound (h : code.nextMatch? lastStop at_ = some g) :
    g.IsFound text at_.offset ∧ (lastStop = some at_.offset → at_.offset < g.whole.stop) := by
  obtain ⟨first, searched, again⟩ := Option.bind_eq_some_iff.1 h
  have found := findAt_isFound sound here searched
  split at again
  · obtain ⟨next, place, later⟩ := Option.bind_eq_some_iff.1 again
    rw [At.next?] at place
    split at place
    · cases place
    · next c cs rest =>
      cases place
      rw [rest] at here
      have pos := c.utf8Size_pos
      obtain ⟨whole, behind, order, starts, stops⟩ := findAt_isFound sound here.next later
      dsimp only at behind
      exact ⟨⟨whole, by omega, order, starts, stops⟩, fun _ => by omega⟩
  · next counts =>
    cases again
    have ⟨_, behind, order, _⟩ := found
    refine ⟨found, fun last => Nat.lt_of_le_of_ne (Nat.le_trans behind order) fun same => counts ?_⟩
    rw [last, ← same, Span.isEmpty, Span.len, Nat.sub_eq_zero_of_le (by omega)]
    simp

theorem findAllFrom_scans (n : Nat) (enough : at_.rest.length + (if lastStop = some at_.offset then 0 else 1) ≤ n) :
    code.Scans lastStop at_ (code.findAllFrom n lastStop at_) := by
  -- What gets less is the number of characters left, plus one as long as an empty match may still stand at this place.
  induction n generalizing lastStop at_ with
  | zero =>
    -- No character is left and a match ended here, so another one would have to end behind the text.
    refine .ended (Option.eq_none_iff_forall_ne_some.2 fun g next => ?_)
    obtain ⟨found, onward⟩ := nextMatch?_isFound sound here next
    obtain ⟨behind, -, -, -, -, shorter⟩ := found.forward here
    split at enough
    · next last =>
      have := shorter (onward last)
      omega
    · omega
  | succ n ih =>
    cases next : code.nextMatch? lastStop at_ with
    | none =>
      rw [findAllFrom, ← nextMatch?, next]
      exact .ended next
    | some g =>
      obtain ⟨found, onward⟩ := nextMatch?_isFound sound here next
      obtain ⟨behind, place, offset, further, le, shorter⟩ := found.forward here
      rw [findAllFrom, ← nextMatch?, next]
      dsimp only
      rw [place]
      refine .found next place (ih further ?_)
      rw [offset, if_pos rfl]
      split at enough
      · next last =>
        have := shorter (onward last)
        omega
      · omega

end

/-- All matches in a text are those of a scan that starts at its start. -/
theorem findAll_scans (sound : code.Sound) (text : String) :
    code.Scans none { rest := text.toList } (code.findAll text) :=
  findAllFrom_scans sound ⟨[], rfl, rfl⟩ _ (Nat.le_of_eq (by rw [if_neg nofun, String.length_toList]))

end Code

end ScriptCoverage.Pattern
