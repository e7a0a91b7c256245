import Mathlib
import ScriptCoverage.Coverage.Record
import ScriptCoverage.Proofs.Source.SequentialBodies

/-!
What the insertion of probes does to a tree. Main statement: `Record.insert_interleaves` — every sequential
body of the new tree alternates probes and the statements of the old one, nothing else changes, and the
record lists the ranges of those statements.
-/

namespace ScriptCoverage

open Source (Node Stmt Script)

/-! ### Every other element of a list -/

/-- A list without the elements at even positions. -/
def dropEven {α : Type} : List α → List α
  | _ :: x :: xs => x :: dropEven xs
  | _ => []

theorem getElem?_dropEven {α : Type} (xs : List α) (i : Nat) : (dropEven xs)[i]? = xs[2 * i + 1]? := by
  fun_induction dropEven xs generalizing i with
  | case1 _ x xs ih =>
    cases i with
    | zero => rfl
    | succ i => simpa [Nat.mul_succ] using ih i
  | case2 xs h =>
    have short : xs.length ≤ 1 := by
      match xs, h with
      | [], _ => simp
      | [_], _ => simp
      | x :: y :: ys, h => exact absurd rfl (h x y ys)
    rw [List.getElem?_nil, List.getElem?_eq_none (by omega)]

namespace Probe

variable (p : Probe)

@[simp]
theorem interleave_nil : p.interleave [] = [] := rfl

@[simp]
theorem interleave_cons (s : Stmt) (ss : List Stmt) :
    p.interleave (s :: ss) = p.call s.span :: s :: p.interleave ss := rfl

@[simp]
theorem span_call (s : Span) : (p.call s).span = .dummy := rfl

@[simp]
theorem mapBodies_call (f : List Stmt → List Stmt) (s : Span) : (p.call s).mapBodies f = p.call s := rfl

@[simp]
theorem bodies_call (s : Span) : (Node.stmt (p.call s)).bodies = [] := by
  simp [call, Stmt.ofExpr, Source.Expr.ofCall, Source.Expr.ofName, Source.Expr.ofString, Source.Expr.ofNumber,
    Node.bodies_stmt, Node.bodies_expr, Node.ofStmt, Node.ofExpr]

theorem length_interleave (ss : List Stmt) : (p.interleave ss).length = 2 * ss.length := by
  induction ss with
  | nil => rfl
  | cons s ss ih => rw [interleave_cons, List.length_cons, List.length_cons, List.length_cons, ih]; omega

theorem getElem?_interleave_odd (ss : List Stmt) (i : Nat) : (p.interleave ss)[2 * i + 1]? = ss[i]? := by
  induction ss generalizing i with
  | nil => simp
  | cons s ss ih =>
    cases i with
    | zero => rfl
    | succ i => simpa [Nat.mul_succ] using ih i

theorem getElem?_interleave_even (ss : List Stmt) (i : Nat) :
    (p.interleave ss)[2 * i]? = (ss[i]?).map fun s => p.call s.span := by
  induction ss generalizing i with
  | nil => simp
  | cons s ss ih =>
    cases i with
    | zero => rfl
    | succ i => simpa [Nat.mul_succ] using ih i

@[simp]
theorem dropEven_interleave (ss : List Stmt) : dropEven (p.interleave ss) = ss := by
  induction ss with
  | nil => rfl
  | cons s ss ih => rw [interleave_cons, dropEven, ih]

/-- Deleting the even positions of all bodies takes the probes out again. -/
theorem dropEven_insert (t : Script) : (p.insert t).mapBodies dropEven = t := by
  refine Script.mapBodies_cancel (fun b => ?_) t
  induction b with
  | nil => rfl
  | cons s ss ih => rw [interleave_cons, List.map_cons, List.map_cons, dropEven, ih, List.map_cons]

/-- How a body with probes belongs to the one without: each statement, which may hold bodies itself, has a
probe for its range in front of it. -/
structure Alternates (b b' : List Stmt) : Prop where
  length_eq : b'.length = 2 * b.length
  original : ∀ i, b'[2 * i + 1]? = (b[i]?).map (Stmt.mapBodies p.interleave)
  probe : ∀ i, b'[2 * i]? = (b'[2 * i + 1]?).map fun s => p.call s.span

theorem alternates_interleave (b : List Stmt) :
    p.Alternates b (p.interleave (b.map (Stmt.mapBodies p.interleave))) where
  length_eq := by rw [length_interleave, List.length_map]
  original i := by rw [getElem?_interleave_odd, List.getElem?_map]
  probe i := by rw [getElem?_interleave_even, getElem?_interleave_odd]

/-- Each body of a script has its place among the bodies of the script with probes. -/
theorem alternates_insert (t : Script) : List.Forall₂ p.Alternates t.bodies (p.insert t).bodies := by
  have h (b : List Stmt) : (p.interleave b).flatMap (fun s => (Node.stmt s).bodies) =
      b.flatMap fun s => (Node.stmt s).bodies := by
    induction b with
    | nil => rfl
    | cons s ss ih =>
      rw [interleave_cons, List.flatMap_cons, bodies_call, List.nil_append, List.flatMap_cons, ih,
        List.flatMap_cons]
  refine (t.bodies_mapBodies h).imp fun b b' hb => ?_
  subst hb
  exact p.alternates_interleave b

variable {p} in
theorem Alternates.spans_eq {b b' : List Stmt} (h : p.Alternates b b') :
    (dropEven b').map Stmt.span = b.map Stmt.span := by
  refine List.ext_getElem? fun i => ?_
  rw [List.getElem?_map, List.getElem?_map, getElem?_dropEven, h.original, Option.map_map]
  exact congrArg (Option.map · b[i]?) (funext fun s => s.span_mapBodies _)

end Probe

namespace Record

theorem foldl_addRange_tree (r : Record) (ss : List Span) : (ss.foldl addRange r).tree = r.tree := by
  induction ss generalizing r with
  | nil => rfl
  | cons s ss ih => exact ih (r.addRange s)

theorem foldl_addRange_ranges (r : Record) (ss : List Span) :
    (ss.foldl addRange r).ranges = r.ranges ++ ss := by
  induction ss generalizing r with
  | nil => rw [List.foldl_nil, List.append_nil]
  | cons s ss ih => rw [List.foldl_cons, ih, addRange, List.append_assoc, List.singleton_append]

/-- The instrumented text of a script is the text of the script with probes. -/
theorem instrumented_cover (key component source : String) (recorder : Identifier) (t : Script) :
    ((ofScript key component source t).cover recorder).instrumented = (Probe.insert ⟨recorder, key⟩ t).print := by
  have tree : ((ofScript key component source t).insert recorder).tree = some (Probe.insert ⟨recorder, key⟩ t) :=
    foldl_addRange_tree _ _
  rw [cover, regenerate, tree]

variable {p : Probe} {bs bs' : List (List Stmt)}

theorem flatMap_spans_eq (h : List.Forall₂ p.Alternates bs bs') :
    bs'.flatMap (fun b => (dropEven b).map Stmt.span) = bs.flatMap (·.map Stmt.span) := by
  induction h with
  | nil => rfl
  | cons hb _ ih => rw [List.flatMap_cons, List.flatMap_cons, hb.spans_eq, ih]

theorem sum_lengths_eq (h : List.Forall₂ p.Alternates bs bs') :
    (bs'.map List.length).sum = 2 * (bs.map List.length).sum := by
  induction h with
  | nil => rfl
  | cons hb _ ih => rw [List.map_cons, List.sum_cons, List.map_cons, List.sum_cons, hb.length_eq, ih, Nat.mul_add]

theorem length_flatMap_spans (bs : List (List Stmt)) :
    (bs.flatMap (·.map Stmt.span)).length = (bs.map List.length).sum := by
  simp [List.length_flatMap]

/-- Insertion interleaves every sequential body with probes and does nothing else: a body of `n` statements
gets `2 * n` that alternate probe and statement, a probe reports the range of the statement behind it, and
deleting the even positions gives the tree back. The record lists the ranges, those of a body before those of
the bodies inside its statements, so there are as many as statements in sequential bodies without probes, and
half as many as with them. -/
theorem insert_interleaves (key component source : String) (recorder : Identifier) (t : Script) :
    let r := (ofScript key component source t).insert recorder
    ∃ t', r.tree = some t' ∧
      List.Forall₂ (Probe.Alternates ⟨recorder, key⟩) t.bodies t'.bodies ∧
      t'.mapBodies dropEven = t ∧
      r.ranges = t'.bodies.flatMap (fun b => (dropEven b).map Stmt.span) ∧
      r.ranges.length = (t.bodies.map List.length).sum ∧
      2 * r.ranges.length = (t'.bodies.map List.length).sum := by
  intro r
  let p : Probe := ⟨recorder, key⟩
  have bodies := p.alternates_insert t
  have ranges : r.ranges = t.bodies.flatMap (·.map Stmt.span) := by
    rw [← t.bodyRanges_eq]
    exact (foldl_addRange_ranges _ _).trans (List.nil_append _)
  have count : r.ranges.length = (t.bodies.map List.length).sum := by rw [ranges, length_flatMap_spans]
  refine ⟨p.insert t, foldl_addRange_tree _ _, bodies, p.dropEven_insert t, ?_, count, ?_⟩
  · rw [ranges, flatMap_spans_eq bodies]
  · rw [count, sum_lengths_eq bodies]

end Record

end ScriptCoverage
