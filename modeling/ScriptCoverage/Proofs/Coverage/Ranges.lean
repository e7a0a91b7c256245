import ScriptCoverage.Proofs.Coverage.Counters
import ScriptCoverage.Proofs.Source.Placement
import ScriptCoverage.Proofs.Text.Bytes

/-!
The ranges of a record as parts of the text. A parser counts positions from a base, so that zero is left for nodes that
never stood in a text. `Script.IsPlaced` says what is asked of it: nodes stand where their tokens do. Main statement:
`ranges_faithful` — then every range that an insertion lists is a part of the text, different ranges are nested or
apart, and every statement of a sequential body has a counter of its own.
-/

namespace ScriptCoverage

open Source (Node Stmt Script)

/-! ### Positions -/

/-- The positions at which a node starts and ends. -/
structure Extent where
  lo : Nat
  hi : Nat
  deriving DecidableEq

namespace Extent

/-- The position of the first byte of a text. -/
def base : Nat := 1

/-- The bytes at some positions. -/
def span (e : Extent) : Span := if e.lo = 0 ∧ e.hi = 0 then .dummy else ⟨e.lo - base, e.hi - base⟩

/-- Whether the positions of a node that was read bound a part of a text. -/
structure IsPartOf (e : Extent) (source : String) : Prop where
  read : base ≤ e.lo
  nonempty : e.lo < e.hi
  starts : Text.IsBoundary source (e.lo - base)
  stops : Text.IsBoundary source (e.hi - base)

instance (e : Extent) (source : String) : Decidable (e.IsPartOf source) :=
  decidable_of_iff
    (base ≤ e.lo ∧ e.lo < e.hi ∧ Text.IsBoundary source (e.lo - base) ∧ Text.IsBoundary source (e.hi - base))
    ⟨fun ⟨h₁, h₂, h₃, h₄⟩ => ⟨h₁, h₂, h₃, h₄⟩, fun ⟨h₁, h₂, h₃, h₄⟩ => ⟨h₁, h₂, h₃, h₄⟩⟩

/-- Nothing is lost when positions are counted from zero. -/
theorem IsPartOf.span_eq {e : Extent} {source : String} (h : e.IsPartOf source) :
    e.span.start + base = e.lo ∧ e.span.stop + base = e.hi := by
  have read := h.read
  have nonempty := h.nonempty
  have start : e.lo ≠ 0 := by
    unfold base at read
    omega
  rw [span, if_neg fun both => start both.1]
  dsimp only
  omega

end Extent

/-! ### What is asked of a parser -/

/-- Whether the nodes of a script stand in a text at some positions: nodes are not empty, what stands inside of one lies
between its first and its last token, different nodes inside of one have no token in common, and the statements of a
body follow one another. -/
structure Source.Script.IsPlaced (t : Script) (source : String) (pos : Node → Extent) : Prop where
  range : ∀ n ∈ t.all, n.isLandmark → n.range? = some (pos n).span ∧ (pos n).IsPartOf source
  inside : ∀ n ∈ t.all, n.isLandmark → ∀ c ∈ n.landmarks,
    (pos n).lo + n.opening ≤ (pos c).lo ∧ (pos c).hi + n.closing ≤ (pos n).hi
  apart : ∀ n ∈ t.all, n.landmarks.Pairwise fun c d => (pos c).hi ≤ (pos d).lo ∨ (pos d).hi ≤ (pos c).lo
  ordered : ∀ b ∈ t.bodies, b.Pairwise fun r s => (pos (.stmt r)).hi ≤ (pos (.stmt s)).lo

instance (t : Script) (source : String) (pos : Node → Extent) : Decidable (t.IsPlaced source pos) :=
  decidable_of_iff
    ((∀ n ∈ t.all, n.isLandmark → n.range? = some (pos n).span ∧ (pos n).IsPartOf source) ∧
      (∀ n ∈ t.all, n.isLandmark → ∀ c ∈ n.landmarks,
        (pos n).lo + n.opening ≤ (pos c).lo ∧ (pos c).hi + n.closing ≤ (pos n).hi) ∧
      (∀ n ∈ t.all, n.landmarks.Pairwise fun c d => (pos c).hi ≤ (pos d).lo ∨ (pos d).hi ≤ (pos c).lo) ∧
      ∀ b ∈ t.bodies, b.Pairwise fun r s => (pos (.stmt r)).hi ≤ (pos (.stmt s)).lo)
    ⟨fun ⟨h₁, h₂, h₃, h₄⟩ => ⟨h₁, h₂, h₃, h₄⟩, fun ⟨h₁, h₂, h₃, h₄⟩ => ⟨h₁, h₂, h₃, h₄⟩⟩

namespace Source.Script.IsPlaced

variable {t : Script} {source : String} {pos : Node → Extent} (placed : t.IsPlaced source pos)

include placed

/-- Ranges are positions that are counted from zero. -/
theorem range_of_mem {n : Node} (inside : n ∈ t.all) {s : Span} (range : s ∈ n.range?) :
    s.start + Extent.base = (pos n).lo ∧ s.stop + Extent.base = (pos n).hi ∧ (pos n).IsPartOf source := by
  obtain ⟨same, part⟩ := placed.range n inside (Option.isSome_iff_exists.2 ⟨s, range⟩)
  obtain rfl := Option.some.inj (same.symm.trans range)
  exact ⟨part.span_eq.1, part.span_eq.2, part⟩

/-- The ranges of a sequential body come in the order of the text. -/
theorem ordered_ranges {b : List Stmt} (body : b ∈ t.bodies) : (b.map Stmt.span).Pairwise Span.Precedes := by
  refine List.pairwise_map.2 ((placed.ordered b body).imp_of_mem fun {r s} hr hs order => ?_)
  obtain ⟨-, stop, -⟩ := placed.range_of_mem (stmt_mem_all body hr) (s := r.span) rfl
  obtain ⟨start, -, -⟩ := placed.range_of_mem (stmt_mem_all body hs) (s := s.span) rfl
  unfold Span.Precedes
  omega

theorem fits (n : Node) (within : n ∈ t.all) : n.Fits := by
  have landmark {c : Node} (near : c ∈ n.landmarks) : c ∈ t.all := all_trans (Node.mem_all_of_mem_landmarks near) within
  refine ⟨fun s range => ?_, fun c near r range s range' => ?_, ?_, ?_⟩
  · obtain ⟨start, stop, part⟩ := placed.range_of_mem within range
    have := part.nonempty
    omega
  · obtain ⟨start, stop, -⟩ := placed.range_of_mem (landmark near) range
    obtain ⟨start', stop', -⟩ := placed.range_of_mem within range'
    have := placed.inside n within (Option.isSome_iff_exists.2 ⟨s, range'⟩) c near
    omega
  · refine (placed.apart n within).imp_of_mem fun {c d} near near' apart r range s range' => ?_
    obtain ⟨start, stop, -⟩ := placed.range_of_mem (landmark near) range
    obtain ⟨start', stop', -⟩ := placed.range_of_mem (landmark near') range'
    refine apart.imp (fun first => ?_) fun second => ?_
    all_goals
      unfold Span.Precedes
      omega
  · unfold Node.ownRanges
    cases body : n.body? with
    | none => exact .nil
    | some b => exact placed.ordered_ranges (mem_bodies_iff.2 (.inr ⟨n, within, body⟩))

/-- Every range is a part of the text, and not an empty one. -/
theorem slice?_of_mem {s : Span} (mem : s ∈ t.bodyRanges) :
    s.start < s.stop ∧ s.stop ≤ source.utf8ByteSize ∧ ∃ text, s.slice? source = some text ∧ text ≠ "" := by
  rw [bodyRanges_eq] at mem
  obtain ⟨b, body, mem⟩ := List.mem_flatMap.1 mem
  obtain ⟨st, inside, rfl⟩ := List.mem_map.1 mem
  obtain ⟨start, stop, part⟩ := placed.range_of_mem (stmt_mem_all body inside) (s := st.span) rfl
  obtain ⟨read, nonempty, starts, stops⟩ := part
  rw [← start, Nat.add_sub_cancel] at starts
  rw [← stop, Nat.add_sub_cancel] at stops
  have order : st.span.start < st.span.stop := by omega
  obtain ⟨text, slice, size, within⟩ := Text.exists_slice? starts stops (Nat.le_of_lt order)
  refine ⟨order, within, text, slice, fun empty => ?_⟩
  rw [empty] at size
  exact Nat.ne_of_gt (Nat.sub_pos_of_lt order) size.symm

end Source.Script.IsPlaced

/-! ### Counters -/

theorem Span.Laminar.ne {r s : Span} (h : r.Laminar s) (nonempty : r.start < r.stop) : r ≠ s := by
  rintro rfl
  rcases h with (apart | apart) | ⟨inside, -⟩ | ⟨inside, -⟩
  · exact Nat.not_le_of_lt nonempty apart
  · exact Nat.not_le_of_lt nonempty apart
  · exact Nat.lt_irrefl _ inside
  · exact Nat.lt_irrefl _ inside

namespace Record

/-- Ranges with different keys get counters of their own, in their order. -/
theorem keys_uncovered_foldl_addRange (r : Record) (ss : List Span)
    (distinct : (r.uncovered.keys ++ ss.map Span.key).Nodup) :
    (ss.foldl addRange r).uncovered.keys = r.uncovered.keys ++ ss.map Span.key := by
  -- on the ranges still to be added: none of them is in the table yet
  induction ss generalizing r with
  | nil => exact (List.append_nil _).symm
  | cons s ss ih =>
    have fresh : r.uncovered.contains s.key = false := by
      refine Bool.eq_false_iff.2 fun found => ?_
      exact (List.nodup_append.1 distinct).2.2 _ ((Table.contains_iff_mem _ _).1 found) _ List.mem_cons_self rfl
    have keys : (r.addRange s).uncovered.keys = r.uncovered.keys ++ [s.key] := by
      rw [addRange, Table.put_of_fresh _ _ _ fresh]
      exact List.map_append
    rw [List.foldl_cons, ih, keys, List.append_assoc]
    · rfl
    · rw [keys, List.append_assoc]
      exact distinct

/-- The ranges of a record are faithful to the text, given that the nodes of the tree stand where their tokens do. They
are different; each is a part of the text that is not empty and begins and ends between characters; any two of them
have nothing in common or one lies strictly inside of the other. Those of one body come in the order of the text, and
those of the bodies inside a statement lie strictly inside of it. So every statement has a counter of its own, and
before anything has run there are as many counters as ranges. -/
theorem ranges_faithful (key component source : String) (recorder : Identifier) (t : Script) (pos : Node → Extent)
    (placed : t.IsPlaced source pos) :
    let r := (ofScript key component source t).insert recorder
    r.ranges = t.bodies.flatMap (·.map Stmt.span) ∧
    r.ranges.Nodup ∧
    (∀ s ∈ r.ranges, s.start < s.stop ∧ s.stop ≤ source.utf8ByteSize ∧
      ∃ text, s.slice? source = some text ∧ text ≠ "") ∧
    r.ranges.Pairwise Span.Laminar ∧
    (∀ b ∈ t.bodies, (b.map Stmt.span).Pairwise Span.Precedes ∧
      ∀ s ∈ b, ∀ inner ∈ (Node.stmt s).bodyRanges, inner ∈ r.ranges ∧ inner.StrictlyIn s.span) ∧
    r.uncovered.keys = r.ranges.map Span.key ∧ r.uncovered.keys.Nodup ∧ r.uncovered.size = r.ranges.length := by
  intro r
  have ranges : r.ranges = t.bodyRanges := (foldl_addRange_ranges _ _).trans (List.nil_append _)
  have laminar : t.bodyRanges.Pairwise Span.Laminar :=
    Script.laminar_bodyRanges placed.fits (placed.ordered_ranges (Source.Script.mem_bodies_iff.2 (.inl rfl)))
  have distinct : t.bodyRanges.Nodup := laminar.imp_of_mem fun mem _ h => h.ne (placed.slice?_of_mem mem).1
  have keys : (t.bodyRanges.map Span.key).Nodup := distinct.map fun _ _ => Span.key_injective
  have counters : r.uncovered.keys = t.bodyRanges.map Span.key :=
    keys_uncovered_foldl_addRange { ofScript key component source t with tree := _ } t.bodyRanges keys
  rw [ranges]
  refine ⟨t.bodyRanges_eq, distinct, fun s mem => placed.slice?_of_mem mem, laminar, fun b body => ?_, counters,
    counters ▸ keys, ?_⟩
  · refine ⟨placed.ordered_ranges body, fun s inside inner mem => ?_⟩
    have within := Source.Script.stmt_mem_all body inside
    exact ⟨Source.Script.bodyRanges_subset within mem, Script.strictlyIn_of_mem_bodyRanges placed.fits within mem⟩
  · rw [Table.size, ← List.length_map Prod.fst]
    exact (congrArg List.length counters).trans (List.length_map _)

/-! ### A text with characters of several bytes -/

namespace Nested

def text : String := "f('é', () => \x7b a; \x7d); switch (x) \x7b case 'ü': \x7b b; \x7d c; \x7d"

def script : Script :=
  match Script.parse text with
  | .ok t => t
  | .error _ => ⟨.dummy, none, []⟩

def recorder : Identifier := ⟨"__rec", by decide⟩

/-- The positions of the nodes that have ranges. -/
def pos (n : Node) : Extent :=
  match n.range? with
  | some s => ⟨s.start + 1, s.stop + 1⟩
  | none => ⟨0, 0⟩

end Nested

open Nested in
/-- The nodes of the text stand where their tokens do, and its six statements have six counters. -/
theorem ranges_faithful_nested :
    script.IsPlaced text pos ∧
    let r := (ofScript "m" "m" text script).insert recorder
    r.uncovered.size = 6 ∧ r.ranges.Pairwise Span.Laminar := by
  have placed : script.IsPlaced text pos := by decide +kernel
  obtain ⟨-, -, -, laminar, -, -, -, -⟩ := ranges_faithful "m" "m" text recorder script pos placed
  exact ⟨placed, by decide +kernel, laminar⟩

end Record

end ScriptCoverage
