import ScriptCoverage.Pattern.Code

/-!
Code that is built for patterns. Building only adds instructions behind those that are there, and what it adds never
accepts and leads to places inside of the code (`ofNode_builds`). So the code of a whole pattern accepts at one place
only, which is reached behind the end of group zero, and starts with the start of that group (`Code.Sound`). Main
statement: `compile?_sound`.
-/

namespace ScriptCoverage.Pattern

/-- The places that an instruction leads to. -/
def Instruction.targets : Instruction → List Nat
  | .take _ next | .look _ next | .save _ next => [next]
  | .fork first second => [first, second]
  | .accept => []

/-- Whether an instruction goes on, to places of code of some size other than its first one. -/
structure Instruction.Inner (i : Instruction) (size : Nat) : Prop where
  goesOn : i ≠ .accept
  inside : ∀ t ∈ i.targets, 0 < t ∧ t < size

theorem Instruction.Inner.mono {i : Instruction} {size size' : Nat} (h : i.Inner size) (le : size ≤ size') :
    i.Inner size' :=
  ⟨h.goesOn, fun t ht => ⟨(h.inside t ht).1, Nat.lt_of_lt_of_le (h.inside t ht).2 le⟩⟩

namespace Code

/-- Code in which a pattern starts with group zero, and accepts behind it and nowhere else. -/
structure Sound (code : Code) : Prop where
  accept : code.instructions[0]? = some .accept
  close : code.instructions[1]? = some (.save 1 0)
  start : ∃ inside, code.instructions[code.start]? = some (.save 0 inside)
  behind : 1 < code.start
  inner : ∀ i ins, 1 < i → code.instructions[i]? = some ins → ins.Inner code.instructions.size
  groups : 0 < code.groups

/-! ### Building -/

variable {c c' c'' : Array Instruction}

/-- Whether a place is one of some code, but not the first. -/
def IsPlace (c : Array Instruction) (p : Nat) : Prop := 0 < p ∧ p < c.size

/-- Whether code was added behind other code. -/
structure Extends (front whole : Array Instruction) : Prop where
  size : front.size ≤ whole.size
  old : ∀ i, i < front.size → whole[i]? = front[i]?
  new : ∀ i ins, front.size ≤ i → whole[i]? = some ins → ins.Inner whole.size

theorem Extends.refl (c : Array Instruction) : Extends c c :=
  ⟨Nat.le_refl _, fun _ _ => rfl, fun _ _ behind found =>
    absurd (Array.getElem?_eq_some_iff.1 found).1 (Nat.not_lt_of_le behind)⟩

theorem Extends.trans (h : Extends c c') (h' : Extends c' c'') : Extends c c'' where
  size := Nat.le_trans h.size h'.size
  old i hi := (h'.old i (Nat.lt_of_lt_of_le hi h.size)).trans (h.old i hi)
  new i ins behind found := by
    rcases Nat.lt_or_ge i c'.size with first | second
    · exact (h.new i ins behind ((h'.old i first).symm.trans found)).mono h'.size
    · exact h'.new i ins second found

theorem Extends.isPlace (h : Extends c c') {p : Nat} (place : IsPlace c p) : IsPlace c' p :=
  ⟨place.1, Nat.lt_of_lt_of_le place.2 h.size⟩

theorem extends_push {i : Instruction} (inner : i.Inner (c.size + 1)) : Extends c (c.push i) where
  size := by rw [Array.size_push]; exact Nat.le_succ _
  old j hj := Array.getElem?_push_lt hj |>.trans (Array.getElem?_eq_getElem hj).symm
  new j ins behind found := by
    rw [Array.getElem?_push] at found
    split at found
    · cases found
      rwa [Array.size_push]
    · exact absurd (Array.getElem?_eq_some_iff.1 found).1 (Nat.not_lt_of_le behind)

/-- Whether a construction added code behind other code, and gave a place of it. -/
structure Builds (c : Array Instruction) (r : Nat × Array Instruction) : Prop where
  added : Extends c r.2
  place : IsPlace r.2 r.1

theorem Builds.return {p : Nat} (place : IsPlace c p) : Builds c ((pure p : Build Nat).run c) := ⟨.refl c, place⟩

theorem Builds.emit {i : Instruction} (pos : 0 < c.size) (inner : i.Inner (c.size + 1)) :
    Builds c ((Code.emit i).run c) :=
  ⟨extends_push inner, pos, by change c.size < (c.push i).size; rw [Array.size_push]; exact Nat.lt_succ_self _⟩

theorem Builds.bind {x : Build Nat} {f : Nat → Build Nat} (first : Builds c (x.run c))
    (next : ∀ p c', Extends c c' → IsPlace c' p → Builds c' ((f p).run c')) : Builds c ((x >>= f).run c) := by
  have second := next _ _ first.added first.place
  exact ⟨first.added.trans second.added, second.place⟩

/-- An instruction that leads to places that are there. -/
theorem Builds.before {i : Instruction} {p : Nat} (place : IsPlace c p) (goesOn : i ≠ .accept)
    (targets : ∀ t ∈ i.targets, IsPlace c t) : Builds c ((Code.emit i).run c) :=
  .emit (Nat.lt_trans place.1 place.2) ⟨goesOn, fun t ht => ⟨(targets t ht).1, Nat.lt_succ_of_lt (targets t ht).2⟩⟩

theorem fork_ne_accept (greedy : Bool) (inside outside : Nat) : fork greedy inside outside ≠ .accept := by
  cases greedy <;> nofun

theorem mem_targets_fork {greedy : Bool} {inside outside t : Nat} (h : t ∈ (fork greedy inside outside).targets) :
    t = inside ∨ t = outside := by
  cases greedy
  · simpa [fork, Instruction.targets, or_comm] using h
  · simpa [fork, Instruction.targets] using h

theorem Builds.fork {inside outside : Nat} (greedy : Bool) (first : IsPlace c inside) (second : IsPlace c outside) :
    Builds c ((Code.emit (Code.fork greedy inside outside)).run c) := by
  refine .before first (fork_ne_accept greedy inside outside) fun t ht => ?_
  rcases mem_targets_fork ht with rfl | rfl
  · exact first
  · exact second

/-! ### Patterns -/

/-- Whether a construction builds code in front of every place of code that has some size already. -/
def Buildable (size : Nat) (build : Nat → Build Nat) : Prop :=
  ∀ c next, size ≤ c.size → IsPlace c next → Builds c ((build next).run c)

theorem Buildable.inFront {size : Nat} {build : Nat → Build Nat} (h : Buildable size build) (n : Nat) :
    Buildable size (inFront build n) := by
  induction n with
  | zero => exact fun c next _ place => .return place
  | succ n ih =>
    intro c next le place
    exact .bind (h c next le place) fun p c' added place' => ih c' p (Nat.le_trans le added.size) place'

/-- A place that was held free in front of added code may be filled. -/
theorem Extends.fill {i : Instruction} (added : Extends (c.push .accept) c') (inner : i.Inner c'.size) :
    Extends c (c'.setIfInBounds c.size i) := by
  have size : c.size + 1 ≤ c'.size := by
    have held := added.size
    rwa [Array.size_push] at held
  refine ⟨?_, fun j hj => ?_, fun j ins behind found => ?_⟩
  · rw [Array.size_setIfInBounds]
    omega
  · rw [Array.getElem?_setIfInBounds_ne (Nat.ne_of_gt hj), added.old j (by rw [Array.size_push]; omega)]
    exact Array.getElem?_push_lt hj |>.trans (Array.getElem?_eq_getElem hj).symm
  · rw [Array.size_setIfInBounds]
    rw [Array.getElem?_setIfInBounds] at found
    split at found
    · split at found
      · cases found
        exact inner
      · cases found
    · next other => exact added.new j ins (by rw [Array.size_push]; omega) found

/-- A loop takes the place that it held free for the fork at its end. -/
theorem Buildable.loop {build : Nat → Build Nat} (h : Buildable 0 build) (greedy : Bool) {next : Nat}
    (place : IsPlace c next) :
    ∃ top inside c', (Code.loop greedy build next).run c = ((top, inside), c') ∧ Extends c c' ∧ IsPlace c' top ∧
      IsPlace c' inside := by
  have pos : 0 < c.size := Nat.lt_trans place.1 place.2
  have held : IsPlace (c.push .accept) c.size := ⟨pos, by rw [Array.size_push]; exact Nat.lt_succ_self _⟩
  have built := h (c.push .accept) c.size (Nat.zero_le _) held
  obtain ⟨inside, code, run⟩ : ∃ inside code, (build c.size).run (c.push .accept) = (inside, code) := ⟨_, _, rfl⟩
  rw [run] at built
  obtain ⟨added, first⟩ := built
  have top : IsPlace code c.size := added.isPlace held
  have second : IsPlace code next := ⟨place.1, Nat.lt_trans place.2 top.2⟩
  have stays {p : Nat} (h : IsPlace code p) (i : Instruction) : IsPlace (code.setIfInBounds c.size i) p := by
    rwa [IsPlace, Array.size_setIfInBounds]
  refine ⟨c.size, inside, code.setIfInBounds c.size (Code.fork greedy inside next), ?_, added.fill ⟨?_, fun t ht => ?_⟩,
    stays top _, stays first _⟩
  · change ((c.size, ((build c.size).run (c.push .accept)).1), ((build c.size).run (c.push .accept)).2.setIfInBounds
      c.size (Code.fork greedy ((build c.size).run (c.push .accept)).1 next)) = _
    rw [run]
  · exact fork_ne_accept greedy inside next
  · rcases mem_targets_fork ht with rfl | rfl
    · exact first
    · exact second

theorem ofNode_builds (n : Node) : Buildable 0 (ofNode n) := by
  induction n with
  | empty => exact fun c next _ place => .return place
  | set s => exact fun c next _ place => .before place nofun fun t ht => List.mem_singleton.1 ht ▸ place
  | look l => exact fun c next _ place => .before place nofun fun t ht => List.mem_singleton.1 ht ▸ place
  -- code is built from its end: the mark behind the group is made first
  | group i n ih =>
    intro c next le place
    refine .bind (.before place nofun fun t ht => List.mem_singleton.1 ht ▸ place) fun close c' _ place' => ?_
    refine .bind (ih c' close (Nat.zero_le _) place') fun inside c'' _ place'' => ?_
    exact .before place'' nofun fun t ht => List.mem_singleton.1 ht ▸ place''
  | seq a b iha ihb =>
    intro c next le place
    exact .bind (ihb c next le place) fun p c' _ place' => iha c' p (Nat.zero_le _) place'
  | alt a b iha ihb =>
    intro c next le place
    refine .bind (iha c next le place) fun first c' added place' => ?_
    refine .bind (ihb c' next (Nat.zero_le _) (added.isPlace place)) fun second c'' added' place'' => ?_
    exact .fork true (added'.isPlace place') place''
  | repetition min max greedy n ih =>
    intro c next le place
    cases max with
    | none =>
      -- without a greatest number the last copy is a loop, and the others stand in front of it
      obtain ⟨top, inside, c', run, added, isTop, isInside⟩ := ih.loop greedy place
      cases min with
      | zero =>
        have rest : Builds c' ((if n.consumes then pure top else emit (fork greedy inside next) : Build Nat).run c') := by
          split
          · exact .return isTop
          · exact .fork greedy isInside (added.isPlace place)
        rw [ofNode, StateT.run_bind, run]
        exact ⟨added.trans rest.added, rest.place⟩
      | succ min =>
        have rest : Builds c' ((inFront (ofNode n) min inside).run c') := ih.inFront min c' inside (Nat.zero_le _) isInside
        rw [ofNode, StateT.run_bind, run]
        exact ⟨added.trans rest.added, rest.place⟩
    | some max =>
      -- each optional copy may be left for what follows the whole repetition
      have optional : Buildable c.size
          (fun following => ofNode n following >>= fun inside => emit (fork greedy inside next)) := by
        intro c' following le place'
        refine .bind (ih c' following (Nat.zero_le _) place') fun inside c'' added isInside => ?_
        exact .fork greedy isInside ⟨place.1, Nat.lt_of_lt_of_le place.2 (Nat.le_trans le added.size)⟩
      rw [ofNode]
      refine .bind (optional.inFront (max - min) c next (Nat.le_refl _) place) fun p c' _ place' => ?_
      exact ih.inFront min c' p (Nat.zero_le _) place'

theorem groupCount_pos (n : Node) : 0 < n.groupCount := by
  induction n with
  | empty | set | look => exact Nat.one_pos
  | group i n ih => exact Nat.lt_of_lt_of_le ih (Nat.le_max_right _ _)
  | seq a b iha | alt a b iha => exact Nat.lt_of_lt_of_le iha (Nat.le_max_left _ _)
  | repetition _ _ _ n ih => exact ih

/-- The code of a whole pattern. -/
theorem compile?_sound {n : Node} {code : Code} (h : compile? n = some code) : code.Sound := by
  have two : IsPlace #[.accept, .save 1 0] 1 := ⟨Nat.one_pos, by decide⟩
  have built := ofNode_builds n #[.accept, .save 1 0] 1 (Nat.zero_le _) two
  obtain ⟨inside, c, run⟩ : ∃ inside c, (ofNode n 1).run #[.accept, .save 1 0] = (inside, c) := ⟨_, _, rfl⟩
  rw [run] at built
  obtain ⟨added, isInside⟩ := built
  have whole : (ofNode (.group 0 n) 0).run #[.accept] = (c.size, c.push (.save 0 inside)) := by
    change (((ofNode n 1).run #[.accept, .save 1 0]).2.size, ((ofNode n 1).run #[.accept, .save 1 0]).2.push
      (.save (2 * 0) ((ofNode n 1).run #[.accept, .save 1 0]).1)) = _
    rw [run]
  rw [compile?] at h
  split at h
  · cases h
  · rw [whole] at h
    obtain rfl := Option.some.inj h
    have all : Extends #[.accept, .save 1 0] (c.push (.save 0 inside)) := by
      refine added.trans (extends_push ⟨nofun, fun t ht => ?_⟩)
      obtain rfl := List.mem_singleton.1 ht
      exact ⟨isInside.1, Nat.lt_succ_of_lt isInside.2⟩
    exact {
      accept := all.old 0 (by decide)
      close := all.old 1 (by decide)
      start := ⟨inside, Array.getElem?_push_size⟩
      behind := added.size
      inner := fun i ins behind found => all.new i ins behind found
      groups := groupCount_pos n }

end Code

end ScriptCoverage.Pattern
