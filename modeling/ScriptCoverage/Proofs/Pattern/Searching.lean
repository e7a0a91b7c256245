import ScriptCoverage.Pattern.Regex
import ScriptCoverage.Proofs.Pattern.Building
import ScriptCoverage.Proofs.Text.Units

/-!
What a search finds. All paths of a search keep to the text: what they saved lies between where the search started and
where they are, on boundaries of characters (`Path.Sound`). Following paths and moving them over a character keep this.
Main statement: `Code.findFrom_whole` — a match starts where the search started or behind that, and ends where it starts
or behind that, both on boundaries.
-/

namespace ScriptCoverage.Pattern

open Text (IsBoundary)

/-! ### Places in a text -/

/-- Whether a search is at an offset of a text, in front of some characters. -/
def IsAt (text : String) (offset : Nat) (rest : List Char) : Prop :=
  ∃ pre, text.toList = pre ++ rest ∧ Text.byteLength pre = offset

variable {text : String} {offset start : Nat} {c : Char} {cs : List Char}

theorem IsAt.isBoundary (h : IsAt text offset cs) : IsBoundary text offset := by
  obtain ⟨pre, whole, length⟩ := h
  exact Text.isBoundary_iff.2 ⟨pre, cs, whole, length⟩

theorem IsAt.next (h : IsAt text offset (c :: cs)) : IsAt text (offset + c.utf8Size) cs := by
  obtain ⟨pre, whole, rfl⟩ := h
  refine ⟨pre ++ [c], by rw [whole, List.append_assoc]; rfl, ?_⟩
  rw [Text.byteLength_append]
  rfl

theorem IsAt.unique {cs' : List Char} (h : IsAt text offset cs) (h' : IsAt text offset cs') : cs = cs' := by
  obtain ⟨pre, whole, rfl⟩ := h
  obtain ⟨pre', whole', length⟩ := h'
  have cut := Text.dropBytes?_append pre cs
  have cut' := Text.dropBytes?_append pre' cs'
  rw [← whole] at cut
  rw [← whole', length, cut] at cut'
  exact Option.some.inj cut'

theorem At.behind?_eq_some {before : Option Char} {k n : Nat} {a : At} (h : At.behind? before k cs n = some a) :
    a.offset = k + n ∧ ∃ pre, cs = pre ++ a.rest ∧ Text.byteLength pre = n := by
  induction cs generalizing before k n with
  | nil =>
    cases n with
    | zero => cases h; exact ⟨rfl, [], rfl, rfl⟩
    | succ n => cases h
  | cons c cs ih =>
    cases n with
    | zero => cases h; exact ⟨rfl, [], rfl, rfl⟩
    | succ n =>
      rw [At.behind?] at h
      · split at h
        · next fits =>
          obtain ⟨offset, pre, rfl, length⟩ := ih h
          exact ⟨by omega, c :: pre, rfl, by rw [Text.byteLength, length]; omega⟩
        · cases h
      · exact Nat.succ_ne_zero n

/-- The place that a search starts at. -/
theorem At.of?_eq_some {a : At} (h : At.of? text start = some a) : a.offset = start ∧ IsAt text start a.rest := by
  rw [At.of?_eq] at h
  obtain ⟨offset, pre, whole, length⟩ := At.behind?_eq_some h
  exact ⟨by omega, pre, whole, length⟩

/-- Whether a match is what a search from an offset on can find: it starts there or behind that and ends where it starts or
behind that, both on boundaries. -/
structure Groups.IsFound (g : Groups) (text : String) (start : Nat) : Prop where
  first : g.head? = some (some g.whole)
  within : start ≤ g.whole.start ∧ g.whole.start ≤ g.whole.stop ∧ IsBoundary text g.whole.start ∧
    IsBoundary text g.whole.stop

/-- The parts of what is left of a text where a match was found: the match, what stands in front of it, and the rest. -/
theorem Groups.IsFound.parts {g : Groups} (found : g.IsFound text start) (here : IsAt text start cs) :
    ∃ gap whole behind, cs = gap ++ whole ++ behind ∧
      g.whole = ⟨start + Text.byteLength gap, start + Text.byteLength gap + Text.byteLength whole⟩ ∧
      g.whole.slice? text = some (String.ofList whole) ∧ IsAt text g.whole.stop behind := by
  obtain ⟨-, le, order, starts, stops⟩ := found
  obtain ⟨pre, same, rfl⟩ := here
  obtain ⟨front, rest, same', length⟩ := Text.isBoundary_iff.1 starts
  obtain ⟨front', behind, same'', length'⟩ := Text.isBoundary_iff.1 stops
  obtain ⟨gap, rfl, rfl⟩ := Text.exists_between (same.symm.trans same') (by rwa [length])
  obtain ⟨whole, rfl, rfl⟩ := Text.exists_between (same'.symm.trans same'') (by rwa [length, length'])
  have slice := Text.slice?_append same'
  rw [Text.byteLength_append (pre ++ gap), length] at length'
  rw [length, length'] at slice
  rw [Text.byteLength_append] at length
  refine ⟨gap, whole, behind, (List.append_assoc _ _ _).symm, ?_, slice, pre ++ gap ++ whole, same'', ?_⟩
  · rw [length, length']
  · rw [Text.byteLength_append, Text.byteLength_append, length, length']

/-! ### Paths -/

/-- What is saved by paths of a search that started at one offset and is at another one. -/
def Saved (text : String) (start offset : Nat) (slots : Array (Option Nat)) : Prop :=
  ∀ i v, slots.getD i none = some v → start ≤ v ∧ v ≤ offset ∧ IsBoundary text v

/-- Whether slots have the start and the end of a match. -/
def Ended (slots : Array (Option Nat)) : Prop :=
  ∃ a b, slots.getD 0 none = some a ∧ slots.getD 1 none = some b ∧ a ≤ b

/-- Whether a path keeps to its text. Only where it starts is the start of its match not saved, and where it accepts
the end is saved as well. -/
structure Path.Sound (code : Code) (text : String) (start offset : Nat) (p : Path) : Prop where
  there : p.place < code.instructions.size
  size : p.slots.size = 2 * code.groups
  saved : Saved text start offset p.slots
  begun : p.place = code.start ∨ (p.slots.getD 0 none).isSome
  ended : p.place = 0 → Ended p.slots

variable {code : Code} {p : Path}

theorem getD_set (slots : Array (Option Nat)) (slot i : Nat) (v : Option Nat) :
    (slots.setIfInBounds slot v).getD i none = if slot = i ∧ i < slots.size then v else slots.getD i none := by
  rw [Array.getD_eq_getD_getElem?, Array.getD_eq_getD_getElem?, Array.getElem?_setIfInBounds]
  by_cases same : slot = i
  · subst same
    by_cases inside : slot < slots.size
    · simp [inside]
    · simp [inside]
  · simp [same]

theorem Saved.set {slots : Array (Option Nat)} (h : Saved text start offset slots) (le : start ≤ offset)
    (boundary : IsBoundary text offset) (slot : Nat) : Saved text start offset (slots.setIfInBounds slot (some offset)) := by
  intro i v found
  rw [getD_set] at found
  split at found
  · cases found
    exact ⟨le, Nat.le_refl _, boundary⟩
  · exact h i v found

theorem Saved.mono {slots : Array (Option Nat)} (h : Saved text start offset slots) {offset' : Nat}
    (le : offset ≤ offset') : Saved text start offset' slots := fun i v found =>
  have ⟨first, second, boundary⟩ := h i v found
  ⟨first, Nat.le_trans second le, boundary⟩

theorem Path.Sound.mono (h : p.Sound code text start offset) {offset' : Nat} (le : offset ≤ offset') :
    p.Sound code text start offset' := { h with saved := h.saved.mono le }

namespace Code

/-- The instruction at a place. -/
theorem Sound.instruction (sound : code.Sound) {place : Nat} (there : place < code.instructions.size) :
    (place = 0 ∧ code.instructions.getD place .accept = .accept) ∨
    (place = 1 ∧ code.instructions.getD place .accept = .save 1 0) ∨
    (1 < place ∧ (code.instructions.getD place .accept).Inner code.instructions.size) := by
  have eq : code.instructions.getD place .accept = code.instructions[place]?.getD .accept :=
    Array.getD_eq_getD_getElem?
  rcases Nat.lt_trichotomy place 1 with first | rfl | inner
  · obtain rfl : place = 0 := by omega
    exact .inl ⟨rfl, by rw [eq, sound.accept]; rfl⟩
  · exact .inr (.inl ⟨rfl, by rw [eq, sound.close]; rfl⟩)
  · refine .inr (.inr ⟨inner, sound.inner place _ inner ?_⟩)
    rw [eq, Array.getElem?_eq_getElem there]
    rfl

end Code

section Steps

variable (sound : code.Sound) (h : p.Sound code text start offset)

include sound h

/-- A path that does not save anything goes on as it is. -/
theorem Path.Sound.goto {i : Instruction} (here : code.instructions.getD p.place .accept = i)
    (free : ∀ slot next, i ≠ .save slot next) {t : Nat} (target : t ∈ i.targets) :
    Path.Sound code text start offset { p with place := t } := by
  have inner : i.Inner code.instructions.size := by
    rcases sound.instruction h.there with ⟨-, eq⟩ | ⟨-, eq⟩ | ⟨-, inner⟩
    · rw [eq] at here
      subst here
      cases target
    · exact absurd (here.symm.trans eq) (free 1 0)
    · rwa [here] at inner
  have elsewhere : p.place ≠ code.start := by
    intro same
    obtain ⟨inside, eq⟩ := sound.start
    rw [Array.getD_eq_getD_getElem?, same, eq] at here
    exact free 0 inside here.symm
  have ⟨pos, lt⟩ := inner.inside t target
  exact ⟨lt, h.size, h.saved, .inr (h.begun.resolve_left elsewhere), fun first => absurd first (Nat.ne_of_gt pos)⟩

/-- A path that saves where it is. -/
theorem Path.Sound.save {slot next : Nat} (here : code.instructions.getD p.place .accept = .save slot next)
    (le : start ≤ offset) (boundary : IsBoundary text offset) :
    Path.Sound code text start offset ⟨next, p.slots.setIfInBounds slot (some offset)⟩ := by
  have groups := sound.groups
  have size := h.size
  have begun : ((p.slots.setIfInBounds slot (some offset)).getD 0 none).isSome := by
    rw [getD_set]
    split
    · rfl
    · next other =>
      refine h.begun.resolve_left fun same => other ?_
      obtain ⟨inside, eq⟩ := sound.start
      rw [Array.getD_eq_getD_getElem?, same, eq] at here
      cases here
      exact ⟨rfl, by omega⟩
  have saved := h.saved.set le boundary slot
  rcases sound.instruction h.there with ⟨-, eq⟩ | ⟨first, eq⟩ | ⟨-, inner⟩
  · rw [eq] at here
    cases here
  · rw [eq] at here
    cases here
    refine ⟨Nat.zero_lt_of_lt h.there, by rw [Array.size_setIfInBounds, size], saved, .inr begun, fun _ => ?_⟩
    obtain ⟨a, found⟩ := Option.isSome_iff_exists.1 begun
    refine ⟨a, offset, found, ?_, (saved 0 a found).2.1⟩
    rw [getD_set, if_pos ⟨rfl, by omega⟩]
  · rw [here] at inner
    have ⟨pos, lt⟩ := inner.inside next (List.mem_singleton.2 rfl)
    exact ⟨lt, by rw [Array.size_setIfInBounds, size], saved, .inr begun, fun first => absurd first (Nat.ne_of_gt pos)⟩

/-- A path that accepts has saved the start and the end of its match. -/
theorem Path.Sound.accepted (here : code.instructions.getD p.place .accept = .accept) : Ended p.slots := by
  rcases sound.instruction h.there with ⟨first, -⟩ | ⟨-, eq⟩ | ⟨-, inner⟩
  · exact h.ended first
  · rw [eq] at here
    cases here
  · exact absurd here inner.goesOn

end Steps

/-! ### Paths side by side -/

namespace Code

/-- Whether all paths that wait keep to the text. -/
def Keeps (code : Code) (text : String) (start offset : Nat) (ps : List Path) : Prop :=
  ∀ p ∈ ps, p.Sound code text start offset

variable (sound : code.Sound)

include sound

theorem follow_keeps (le : start ≤ offset) (boundary : IsBoundary text offset) (before after : Option Char) (n : Nat)
    (ps : List Path) (front : Front) (paths : code.Keeps text start offset ps)
    (waiting : code.Keeps text start offset front.paths) :
    code.Keeps text start offset (code.follow before after offset n ps front).paths := by
  induction n generalizing ps front with
  | zero => exact waiting
  | succ n ih =>
    cases ps with
    | nil => exact waiting
    | cons p ps =>
      obtain ⟨first, rest⟩ := List.forall_mem_cons.1 paths
      rw [follow]
      split
      · exact ih ps front rest waiting
      · dsimp only
        split
        · exact ih ps _ rest (List.forall_mem_cons.2 ⟨first, waiting⟩)
        · exact ih ps _ rest (List.forall_mem_cons.2 ⟨first, waiting⟩)
        · next l next here =>
          refine ih _ _ ?_ waiting
          split
          · exact List.forall_mem_cons.2 ⟨first.goto sound here nofun (List.mem_singleton.2 rfl), rest⟩
          · exact rest
        · next slot next here =>
          exact ih _ _ (List.forall_mem_cons.2 ⟨first.save sound here le boundary, rest⟩) waiting
        · next left right here =>
          refine ih _ _ (List.forall_mem_cons.2 ⟨first.goto sound here nofun List.mem_cons_self, ?_⟩) waiting
          have second := first.goto sound here nofun (t := right) (List.mem_cons_of_mem _ (List.mem_singleton.2 rfl))
          exact List.forall_mem_cons.2 ⟨second, rest⟩

theorem enter_keeps (le : start ≤ offset) (boundary : IsBoundary text offset) (before after : Option Char) {p : Path}
    (path : p.Sound code text start offset) {front : Front} (waiting : code.Keeps text start offset front.paths) :
    code.Keeps text start offset (code.enter before after offset p front).paths :=
  follow_keeps sound le boundary before after _ [p] front (List.forall_mem_singleton.2 path) waiting

/-- Whether slots are those of a path that keeps to the text and accepts. -/
def Found (text : String) (start : Nat) (slots : Array (Option Nat)) : Prop :=
  Ended slots ∧ ∃ stop, Saved text start stop slots

/-- Moving over a character leads to the place behind it. -/
theorem move_keeps {offset' : Nat} (le : start ≤ offset) (step : offset ≤ offset') (boundary : IsBoundary text offset')
    (c : Char) (after : Option Char) (ps : List Path) (front : Front) (paths : code.Keeps text start offset ps)
    (waiting : code.Keeps text start offset' front.paths) :
    code.Keeps text start offset' (code.move c after offset' ps front).1.paths ∧
      ∀ slots, (code.move c after offset' ps front).2 = some slots → Found text start slots := by
  induction ps generalizing front with
  | nil => exact ⟨waiting, nofun⟩
  | cons p ps ih =>
    obtain ⟨first, rest⟩ := List.forall_mem_cons.1 paths
    rw [move]
    split
    · next here =>
      refine ⟨waiting, fun slots found => ?_⟩
      cases found
      exact ⟨first.accepted sound here, offset, first.saved⟩
    · next s next here =>
      split
      · have moved := (first.goto sound here nofun (List.mem_singleton.2 rfl)).mono step
        exact ih _ rest (enter_keeps sound (Nat.le_trans le step) boundary (some c) after moved waiting)
      · exact ih front rest waiting
    · exact ih front rest waiting

/-- A path that starts at an offset. -/
theorem sound_start (text : String) (start offset : Nat) :
    Path.Sound code text start offset ⟨code.start, Array.replicate (2 * code.groups) none⟩ := by
  obtain ⟨inside, eq⟩ := sound.start
  refine ⟨(Array.getElem?_eq_some_iff.1 eq).1, Array.size_replicate, fun i v found => ?_, .inl rfl, fun first => ?_⟩
  · rw [Array.getD_eq_getD_getElem?, Array.getElem?_replicate] at found
    split at found <;> cases found
  · have same : code.start = 0 := first
    have behind := sound.behind
    omega

theorem begun_keeps (le : start ≤ offset) (boundary : IsBoundary text offset) (before after : Option Char)
    (found : Option (Array (Option Nat))) {front : Front} (waiting : code.Keeps text start offset front.paths) :
    code.Keeps text start offset (walk.begun code before offset found after front).paths := by
  rw [walk.begun]
  split
  · exact waiting
  · exact enter_keeps sound le boundary before after (sound_start sound text start offset) waiting

/-- A walk finds what keeps to the text. -/
theorem walk_found (le : start ≤ offset) (before : Option Char) (front : Front) (found : Option (Array (Option Nat)))
    (cs : List Char) (at_ : IsAt text offset cs) (waiting : code.Keeps text start offset front.paths)
    (earlier : ∀ slots, found = some slots → Found text start slots) :
    ∀ slots, code.walk before offset front found cs = some slots → Found text start slots := by
  -- two things are kept at every step: the waiting paths keep to the text, and what was found so far is a find
  induction cs generalizing before offset front found with
  | nil =>
    intro slots h
    have paths := begun_keeps sound le at_.isBoundary before none found waiting
    rw [walk] at h
    rcases Option.or_eq_some_iff.1 h with here | ⟨-, older⟩
    · obtain ⟨p, first, rfl⟩ := Option.map_eq_some_iff.1 here
      have path := paths p (List.mem_reverse.1 (List.mem_of_find?_eq_some first))
      have accepts := List.find?_some first
      refine ⟨path.accepted sound ?_, offset, path.saved⟩
      rw [Code.accepts] at accepts
      split at accepts
      · assumption
      · cases accepts
    · exact earlier slots older
  | cons c cs ih =>
    have paths := begun_keeps sound le at_.isBoundary before (some c) found waiting
    have step : offset ≤ offset + c.utf8Size := Nat.le_add_right _ _
    have behind := at_.next
    have moved := move_keeps sound le step behind.isBoundary c cs.head?
      (walk.begun code before offset found (some c) front).paths.reverse
      { walk.begun code before offset found (some c) front with paths := [] }
      (fun p hp => paths p (List.mem_reverse.1 hp)) (List.forall_mem_nil _)
    rw [walk]
    dsimp only
    generalize code.move c cs.head? (offset + c.utf8Size) (walk.begun code before offset found (some c) front).paths.reverse
      { walk.begun code before offset found (some c) front with paths := [] } = result at moved ⊢
    obtain ⟨next, accepted⟩ := result
    have now : ∀ slots, accepted.or found = some slots → Found text start slots := by
      intro slots h
      rcases Option.or_eq_some_iff.1 h with here | ⟨-, older⟩
      · exact moved.2 slots here
      · exact earlier slots older
    dsimp only
    split
    · exact now
    · exact ih (Nat.le_trans le step) (some c) next _ behind moved.1 now

/-- The whole match among the groups that were saved. -/
theorem head?_groupsOf {slots : Array (Option Nat)} {a b : Nat} (ha : slots.getD 0 none = some a)
    (hb : slots.getD 1 none = some b) : (code.groupsOf slots).head? = some (some ⟨a, b⟩) := by
  obtain ⟨k, groups⟩ : ∃ k, code.groups = k + 1 := ⟨code.groups - 1, by have := sound.groups; omega⟩
  rw [groupsOf, groups, List.range_succ_eq_map, List.map_cons, List.head?_cons]
  simp only [Nat.mul_zero, Nat.zero_add, ha, hb]

/-- A search at a place finds a match there or behind it. -/
theorem findAt_isFound {at_ : At} (here : IsAt text at_.offset at_.rest) {g : Groups} (h : code.findAt at_ = some g) :
    g.IsFound text at_.offset := by
  obtain ⟨slots, walked, rfl⟩ := Option.map_eq_some_iff.1 h
  obtain ⟨⟨a, b, ha, hb, order⟩, stop, saved⟩ :=
    walk_found sound (Nat.le_refl _) at_.before { reached := Array.replicate code.instructions.size 0 } none at_.rest
      here (List.forall_mem_nil _) nofun slots walked
  have first := head?_groupsOf sound ha hb
  have whole : (code.groupsOf slots).whole = ⟨a, b⟩ := by
    rw [Groups.whole, first]
    rfl
  refine ⟨by rw [first, whole], ?_⟩
  rw [whole]
  exact ⟨(saved 0 a ha).1, order, (saved 0 a ha).2.2, (saved 1 b hb).2.2⟩

theorem findFrom_isFound {g : Groups} (h : code.findFrom text start = some g) : g.IsFound text start := by
  obtain ⟨at_, place, found⟩ := Option.bind_eq_some_iff.1 h
  obtain ⟨offset, isAt⟩ := At.of?_eq_some place
  rw [← offset]
  exact findAt_isFound sound (by rwa [offset]) found

/-- A match starts where the search started or behind that, and ends where it starts or behind that; it starts and ends
on boundaries of characters. -/
theorem findFrom_whole {g : Groups} (h : code.findFrom text start = some g) :
    start ≤ g.whole.start ∧ g.whole.start ≤ g.whole.stop ∧ IsBoundary text g.whole.start ∧
      IsBoundary text g.whole.stop :=
  (findFrom_isFound sound h).within

end Code

end ScriptCoverage.Pattern
