import ScriptCoverage.Coverage.Session
import ScriptCoverage.Proofs.Coverage.Insertion
import ScriptCoverage.Proofs.Coverage.Probing
import ScriptCoverage.Proofs.Source.Nesting

/-!
Whether the text of an instrumented script still compiles. A probe is three levels deep, a statement may be
one; a module is only instrumented if it is nested one level less than a module that runs may be, so a probe
for a statement at that depth does not fit. Main statements:

* `compile_instrumented_iff` — the instrumented text compiles iff its tokens are not nested too deeply and no
  statement of a sequential body stands as deep as a module that is instrumented may be nested.
-/

namespace ScriptCoverage

open Source (Node Expr Stmt Script Lexeme Nesting Cursor compile)

/-- A statement that calls a name with literals is three levels deep: itself, the call, and the arguments. -/
theorem Source.Node.call_tooDeep? {limit : Nat} {s c a b d : Span} {n : Source.Name} {v : String} {x y : Float}
    {i j k : Option String} :
    (stmt (.expression s (.call c false (.name n) [.string a v i, .number b x j, .number d y k]))).tooDeep? limit =
      none ↔ 3 ≤ limit := by
  have leaf {e : Expr} {n : Nat} (h : (expr e).isLevel = true) (he : ofExpr e = []) :
      (expr e).tooDeep? n = none ↔ 1 ≤ n := by
    simp [tooDeep?_expr h, he]
  have name {n : Source.Name} {l : Nat} : (expr (.name n)).tooDeep? l = none ↔ 1 ≤ l := leaf rfl rfl
  have string {l : Nat} : (expr (.string a v i)).tooDeep? l = none ↔ 1 ≤ l := leaf rfl rfl
  have number {s : Span} {z : Float} {r : Option String} {l : Nat} :
      (expr (.number s z r)).tooDeep? l = none ↔ 1 ≤ l := leaf rfl rfl
  simp only [tooDeep?_stmt, ofStmt, List.forall_mem_singleton]
  rw [tooDeep?_expr rfl]
  simp only [ofExpr, List.map_cons, List.map_nil, List.forall_mem_cons, name, string, number]
  simp
  omega

namespace Probe

variable (p : Probe)

theorem addsHeight_interleave : Node.AddsHeight p.interleave 3 := by
  intro b limit
  induction b with
  | nil => simp [interleave]
  | cons s ss ih =>
    have room : (Node.stmt (p.call s.span)).tooDeep? limit = none ↔ 3 ≤ limit := Node.call_tooDeep?
    simp only [interleave, List.forall_mem_cons, ih, room]
    tauto

end Probe

/-! ### Compiling printed text -/

namespace Source.Script

/-- Reads a text without a look at how deeply it is nested. -/
def readText (text : String) : Except Source.Failure Script :=
  read (Cursor.ofString text).afterInterpreterLine.1 (Cursor.ofString text).afterInterpreterLine.2

/-- Whether the tokens of a text are nested within a limit. -/
def TokensFit (limit : Nat) (text : String) : Prop :=
  Nesting.tooDeep? limit {} (Lexeme.all (Cursor.ofString text).afterInterpreterLine.1) = none

instance (limit : Nat) (text : String) : Decidable (TokensFit limit text) :=
  inferInstanceAs (Decidable (_ = none))

/-- What the printer owes to a tree: its text reads back as a tree that is nested as the printed one is, and
that lowers if the printed one does. -/
def PrintsBack (t : Script) : Prop :=
  ∃ t', readText t.print = .ok t' ∧ (∀ limit, t'.tooDeep? limit = none ↔ t.tooDeep? limit = none) ∧
    (t.lower.isOk = true → t'.lower.isOk = true)

theorem parseWithLimit_eq_ok {source : String} {limit : Nat} {t : Script} :
    parseWithLimit source limit = .ok t ↔
      TokensFit limit source ∧ readText source = .ok t ∧ t.tooDeep? limit = none := by
  rw [parseWithLimit, TokensFit, readText]
  dsimp only
  cases Nesting.tooDeep? limit {} (Lexeme.all (Cursor.ofString source).afterInterpreterLine.1) with
  | some offset => exact ⟨nofun, nofun⟩
  | none =>
    cases read (Cursor.ofString source).afterInterpreterLine.1 (Cursor.ofString source).afterInterpreterLine.2 with
    | error e => exact ⟨nofun, nofun⟩
    | ok t' =>
      dsimp only
      cases ht : t'.tooDeep? limit with
      | some offset =>
        refine ⟨nofun, ?_⟩
        rintro ⟨-, h, hn⟩
        obtain rfl : t' = t := Except.ok.inj h
        exact absurd (ht.symm.trans hn) nofun
      | none =>
        constructor
        · intro h
          obtain rfl : t' = t := Except.ok.inj h
          exact ⟨rfl, rfl, ht⟩
        · rintro ⟨-, h, -⟩
          exact congrArg Except.ok (Except.ok.inj h)

theorem compile_isOk {source : String} :
    (compile source).isOk = true ↔ ∃ t, parseWithLimit source maxNesting = .ok t ∧ t.lower.isOk = true := by
  rw [compile, parse]
  cases parseWithLimit source maxNesting with
  | error e => exact ⟨nofun, nofun⟩
  | ok t => exact ⟨fun h => ⟨t, rfl, h⟩, fun ⟨_, ht, h⟩ => Except.ok.inj ht ▸ h⟩

end Source.Script

/-! ### The instrumented text -/

open Source.Script (TokensFit maxNesting)

/-- The instrumented text of a script that was read and that compiles does compile iff its tokens fit, and no
statement of a sequential body stands as deep as a module that is instrumented may be nested: a probe in
front of such a statement is nested too deeply itself. -/
theorem compile_instrumented_iff {key component source : String} {recorder : Identifier} {t : Script}
    (hread : Script.parseWithLimit source instrumentedNesting = .ok t) (hcompile : (compile source).isOk = true)
    (hprint : (Probe.insert ⟨recorder, key⟩ t).PrintsBack) :
    (compile ((Record.ofScript key component source t).cover recorder).instrumented).isOk = true ↔
      TokensFit maxNesting ((Record.ofScript key component source t).cover recorder).instrumented ∧
        ¬ t.HasBodyAt (instrumentedNesting - 1) := by
  obtain ⟨-, hsource, hshallow⟩ := Script.parseWithLimit_eq_ok.1 hread
  obtain ⟨t₀, hparse, hlower⟩ := Script.compile_isOk.1 hcompile
  obtain ⟨-, hsource₀, hfits⟩ := Script.parseWithLimit_eq_ok.1 hparse
  obtain rfl : t₀ = t := Except.ok.inj (hsource₀.symm.trans hsource)
  obtain ⟨t', hback, hnesting, hlowers⟩ := hprint
  have lowers : (Probe.insert ⟨recorder, key⟩ t₀).lower.isOk = true := by
    rw [Probe.lower_insert]
    cases h : t₀.lower with
    | ok => rfl
    | error => simp [h, Except.isOk, Except.toBool] at hlower
  -- a probe adds three levels to the depth of its statement, so only the deepest statements make it too deep
  have nesting : t'.tooDeep? maxNesting = none ↔ ¬ t₀.HasBodyAt (instrumentedNesting - 1) := by
    rw [hnesting, Probe.insert, Script.mapBodies_tooDeep? (Probe.addsHeight_interleave _)]
    constructor
    · rintro ⟨-, room⟩ deep
      exact absurd (room _ deep) (by decide)
    · intro shallow
      refine ⟨hfits, fun k hk => ?_⟩
      have below : k < 255 := hk.lt hshallow
      have other : k ≠ 254 := by
        rintro rfl
        exact shallow hk
      change k + 3 ≤ 256
      omega
  rw [Record.instrumented_cover, Script.compile_isOk, ← nesting]
  constructor
  · rintro ⟨t'', hparse, -⟩
    obtain ⟨htokens, hread, hdeep⟩ := Script.parseWithLimit_eq_ok.1 hparse
    obtain rfl : t' = t'' := Except.ok.inj (hback.symm.trans hread)
    exact ⟨htokens, hdeep⟩
  · rintro ⟨htokens, hdeep⟩
    exact ⟨t', Script.parseWithLimit_eq_ok.2 ⟨htokens, hback, hdeep⟩, hlowers lowers⟩

/-- Whether a script is a call of a name with three literals in front of an empty statement. -/
def IsProbedEmpty : Script → Bool
  | ⟨_, _, [.expression _ (.call _ false (.name _) [.string .., .number .., .number ..]), .empty _]⟩ => true
  | _ => false

theorem IsProbedEmpty.tooDeep? {t : Script} (h : IsProbedEmpty t = true) {limit : Nat} :
    t.tooDeep? limit = none ↔ 3 ≤ limit := by
  unfold IsProbedEmpty at h
  split at h
  · simp only [Script.tooDeep?_eq_none, List.forall_mem_cons, Node.call_tooDeep?]
    simp [Node.tooDeep?_stmt, Node.ofStmt]
    omega
  · cases h

theorem IsProbedEmpty.lower {t : Script} (h : IsProbedEmpty t = true) : t.lower.isOk = true := by
  unfold IsProbedEmpty at h
  split at h
  · rfl
  · cases h

/-- A script that is one empty statement has room for the probe in front of it. -/
theorem empty_statement_instrumented : ∃ (recorder : Identifier) (t : Script),
    Script.parseWithLimit ";" instrumentedNesting = .ok t ∧ (compile ";").isOk = true ∧
      (Probe.insert ⟨recorder, "m"⟩ t).PrintsBack ∧
      (compile ((Record.ofScript "m" "c" ";" t).cover recorder).instrumented).isOk = true := by
  let recorder : Identifier := ⟨"r", by decide⟩
  let t : Script := ⟨⟨0, 1⟩, none, [.empty ⟨0, 1⟩]⟩
  have fits (limit : Nat) (h : 1 ≤ limit) : t.tooDeep? limit = none := by
    simpa [Script.tooDeep?_eq_none, t, Node.tooDeep?_stmt, Node.ofStmt] using h
  have hread : Script.parseWithLimit ";" instrumentedNesting = .ok t :=
    Script.parseWithLimit_eq_ok.2 ⟨by decide +kernel, rfl, fits _ (by decide)⟩
  have hparse : Script.parseWithLimit ";" maxNesting = .ok t :=
    Script.parseWithLimit_eq_ok.2 ⟨by decide +kernel, rfl, fits _ (by decide)⟩
  have hcompile : (compile ";").isOk = true := Script.compile_isOk.2 ⟨t, hparse, rfl⟩
  have text : (Probe.insert ⟨recorder, "m"⟩ t).print = "r(\"m\", 0, 1);\n;\n" := by decide +kernel
  have back : (Script.readText "r(\"m\", 0, 1);\n;\n").toOption.any IsProbedEmpty = true := by decide +kernel
  have hprint : (Probe.insert ⟨recorder, "m"⟩ t).PrintsBack := by
    cases h : Script.readText "r(\"m\", 0, 1);\n;\n" with
    | error e => simp [h, Except.toOption] at back
    | ok t' =>
      rw [h] at back
      refine ⟨t', text ▸ h, fun limit => ?_, fun _ => IsProbedEmpty.lower back⟩
      exact (IsProbedEmpty.tooDeep? back).trans (IsProbedEmpty.tooDeep? (t := Probe.insert _ t) rfl).symm
  refine ⟨recorder, t, hread, hcompile, hprint, (compile_instrumented_iff hread hcompile hprint).2 ⟨?_, ?_⟩⟩
  · rw [Record.instrumented_cover, text]
    decide +kernel
  · exact fun deep => absurd (deep.lt (fits 1 (Nat.le_refl 1))) (by decide)

end ScriptCoverage
