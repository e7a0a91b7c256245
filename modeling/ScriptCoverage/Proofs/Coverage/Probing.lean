import ScriptCoverage.Coverage.Probe
import ScriptCoverage.Machine.Value
import ScriptCoverage.Proofs.Program.Lowering
import ScriptCoverage.Proofs.Program.Names
import ScriptCoverage.Proofs.Program.Refusal

/-!
Probes in executable programs. Main statements: `Probe.lower_insert` — a script with probes lowers to the
program of the script with the same probes in its sequential bodies — and `Probe.insert_commutes_with_lower` — to
put probes into the tree of a script and to put them into its program come to the same, also where there is no
program.
-/

namespace ScriptCoverage

open Source (Stmt Script)

namespace Source

theorem bind_eq_ok {ε α β : Type} {x : Except ε α} {f : α → Except ε β} {b : β} :
    (x >>= f) = .ok b ↔ ∃ a, x = .ok a ∧ f a = .ok b := by
  cases x with
  | ok a => exact ⟨fun h => ⟨a, rfl, h⟩, fun ⟨_, ha, h⟩ => Except.ok.inj ha ▸ h⟩
  | error e => exact ⟨nofun, nofun⟩

theorem Func.span_lower {f : Func} {f' : Program.Func} (h : f.lower = .ok f') : f'.span = f.span := by
  obtain ⟨s, k, n, isAsync, isGenerator, ps, b⟩ := f
  cases isGenerator <;> cases isAsync <;>
    simp only [lower, unsupported, bind_eq_ok, Bool.false_eq_true, if_true, if_false, reduceCtorEq] at h
  obtain ⟨_, _, _, _, h⟩ := h
  cases h
  rfl

theorem Block.span_lower {b : Block} {b' : Program.Block} (h : b.lower = .ok b') : b'.span = b.span := by
  obtain ⟨s, ss⟩ := b
  obtain ⟨_, _, h⟩ := bind_eq_ok.1 h
  cases h
  rfl

/-- Lowering keeps the range of a statement. -/
theorem Stmt.span_lower {s : Stmt} {s' : Program.Stmt} (h : s.lower = .ok s') : s'.span = s.span := by
  cases s with
  | function f =>
    obtain ⟨f', hf, h⟩ := bind_eq_ok.1 h
    cases h
    exact Func.span_lower hf
  | block b =>
    obtain ⟨b', hb, h⟩ := bind_eq_ok.1 h
    cases h
    exact Block.span_lower hb
  | forOf | classDef => cases h
  | _ =>
    simp only [lower, bind_eq_ok, pure, Except.pure, Except.ok.injEq] at h
    grind [Program.Stmt.span, span]

end Source

namespace Probe

variable (p : Probe)

/-- What a probe hands to its recorder. -/
def arguments (s : Span) : List Machine.Value :=
  [.string p.key, .number (ofWhole s.start), .number (ofWhole s.stop)]

/-- The call of a recorder as a statement of a program. -/
def lowered (s : Span) : Program.Stmt :=
  .expression .dummy (.call .dummy (.place (.name .dummy p.recorder.name))
    [.string .dummy p.key, .number .dummy (ofWhole s.start), .number .dummy (ofWhole s.stop)])

/-- Puts a probe in front of every statement of a body of a program. -/
def weave (p : Probe) : List Program.Stmt → List Program.Stmt
  | [] => []
  | s :: ss => p.lowered s.span :: s :: p.weave ss

theorem lower_call (s : Span) : (p.call s).lower = .ok (p.lowered s) := rfl

/-- Putting probes in and lowering commute for one body. -/
theorem lowersTo_weave : Source.LowersTo p.interleave p.weave := by
  intro b
  induction b with
  | nil => rfl
  | cons s ss ih =>
    simp only [interleave, Stmt.lowerAll, lower_call, ih]
    cases hs : s.lower with
    | error e => rfl
    | ok s' =>
      cases Stmt.lowerAll ss with
      | error e => rfl
      | ok ss' =>
        rw [← Stmt.span_lower hs]
        rfl

theorem lower_insert (t : Script) : (p.insert t).lower = Program.mapBodies p.weave <$> t.lower :=
  Script.lower_mapBodies p.lowersTo_weave t

theorem inert_weave : Program.Declared.Inert p.weave := by
  intro b
  induction b with
  | nil => rfl
  | cons s ss ih => simp [weave, lowered, Program.Declared.ofBody, Program.Declared.ofStmt, ih]

/-- Probes bind no names. -/
theorem bodyBindsOnly_weave {names : String → Prop} (b : List Program.Stmt)
    (h : Program.Stmt.BodyBindsOnly names (fun _ => True) b) :
    Program.Stmt.BodyBindsOnly names (fun _ => True) (p.weave b) := by
  induction b with
  | nil => exact h
  | cons s ss ih =>
    obtain ⟨hs, hb, hss⟩ := h
    exact ⟨trivial, ⟨trivial, trivial, trivial, trivial, trivial⟩, hs, hb, ih hss⟩

/-! ### Before and behind lowering -/

/-- A woven body has the call of the recorder with the range of a statement in front of each statement. -/
theorem weave_eq_flatMap (b : List Program.Stmt) : p.weave b = b.flatMap fun s => [p.lowered s.span, s] := by
  induction b with
  | nil => rfl
  | cons s ss ih => rw [weave, ih, List.flatMap_cons, List.cons_append, List.singleton_append]

/-- A script with probes is refused where the script is, for the same form at the same offset. If neither is,
its program is that of the script with, in front of every statement of every sequential body, the call of the
recorder with the key and the two ends of the range that the statement has in the program of the script. The
expression of an arrow function is no statement of a body. -/
theorem insert_commutes_with_lower (t : Source.Script) :
    (match t.lower with
      | .error fault =>
        (p.insert t).lower = .error fault ∧ ∃ construct offset, fault = .unsupported construct offset
      | .ok program => (p.insert t).lower = .ok (program.mapBodies p.weave)) ∧
    ∀ b, p.weave b = b.flatMap fun s =>
      [.expression .dummy (.call .dummy (.place (.name .dummy p.recorder.name))
        [.string .dummy p.key, .number .dummy (ofWhole s.span.start), .number .dummy (ofWhole s.span.stop)]), s] := by
  refine ⟨?_, p.weave_eq_flatMap⟩
  have commutes := p.lower_insert t
  have refuses := t.onlyRefuses_lower
  cases ht : t.lower with
  | error fault =>
    rw [ht] at commutes refuses
    exact ⟨commutes, refuses fault rfl⟩
  | ok program =>
    rw [ht] at commutes
    exact commutes

end Probe

end ScriptCoverage
