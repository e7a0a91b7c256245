import ScriptCoverage.Proofs.Coverage.Capture
import ScriptCoverage.Proofs.Module.FunctionTexts

/-!
Modules that are read again. The text of a function that was written around a body is read back as that body on lines of
its own, whatever stands in it, and the source of a factory is made of what is read back. Main statement:
`patched_text_read_again` — so a session that meets a module which an earlier one has patched gets the text that the
earlier one has generated.
-/

namespace ScriptCoverage

open Text

namespace Module

/-- Line breaks around a text change nothing about its indentation. -/
theorem indentation_framed (cs : List Char) : indentation ('\n' :: cs ++ ['\n']) = indentation cs := by
  have closed : indentation (cs ++ ['\n']) = indentation cs := by
    induction cs using induction_on_lines with
    | last q hq =>
      rw [indentation_append_break hq, indentation_of_not_mem hq]
      rfl
    | more q rest hq ih =>
      rw [List.append_assoc, List.cons_append, indentation_append_break hq, indentation_append_break hq, ih]
  exact (indentation_append_break List.not_mem_nil (cs ++ ['\n'])).trans closed

namespace Factory

/-- The text of a factory is read back with the same parameters. -/
theorem Made.exists_read {f : Factory} (made : f.Made) : ∃ read, ofFunctionText f.text = .ok read ∧ read.params = f.params := by
  cases made with
  | taken text h =>
    obtain ⟨rfl, -⟩ := ofFunctionText_eq_ok_iff.1 h
    exact ⟨f, h, rfl⟩
  | written params body h =>
    obtain ⟨valid, rfl⟩ := ofBody_eq_ok h
    exact ⟨_, ofFunctionText_around (fun p hp => Identifier.fault?_eq_none_iff.1 (valid p hp)) body, rfl⟩

/-- The source of a factory is the body that is read back from its text, moved to the left. -/
theorem source_of_read {f read : Factory} (h : ofFunctionText f.text = .ok read) :
    ∃ header behind, f.text.toList = header ++ '\x7b' :: (read.body.toList ++ '\x7d' :: behind) ∧ '\x7b' ∉ header ∧
      '\x7d' ∉ behind ∧ f.source.toList = dedent read.body.toList := by
  obtain ⟨-, behind, last, function⟩ := ofFunctionText_eq_ok_iff.1 h
  obtain ⟨header, isHeader, cut⟩ := function.cutBraces?_eq last
  obtain ⟨behind', whole, first, last'⟩ := cutBraces?_eq_some_iff.1 cut
  refine ⟨header, behind', whole, first, last', ?_⟩
  rw [source, functionSource_of_cut cut, String.toList_ofList]

/-- The source of a function around a text is this text on lines of its own iff the text is not indented. -/
theorem source_around_iff {f : Factory} {params : List String} {body : String} (h : ofBody params body = .ok f) :
    f.source = "\n" ++ body ++ "\n" ↔
      ∀ l ∈ firstLine? body.toList, ∃ c rest, l = c :: rest ∧ Unicode.isBlank c = false := by
  obtain ⟨valid, rfl⟩ := ofBody_eq_ok h
  obtain ⟨-, -, -, -, -, moved⟩ := source_of_read (f := ⟨params, around params body, body⟩)
    (ofFunctionText_around (fun p hp => Identifier.fault?_eq_none_iff.1 (valid p hp)) body)
  have framed : ("\n" ++ body ++ "\n").toList = '\n' :: body.toList ++ ['\n'] := by simp [String.toList_append]
  rw [← indentation_eq_nil_iff, ← indentation_framed, ← framed, ← dedent_eq_self_iff, ← moved, String.toList_inj]

end Factory

end Module

namespace Session

variable {τ : Type}

/-- What a session reads of a module that it can select. -/
theorem source_of_started {c : Config} {generated : String} {m m' : Machine (Ledger τ)} {s : Session}
    (started : start c generated m = .ok s m') {key : String} {f : Module.Factory} (registered : m.registry.get? key = some f)
    (selected : c.Selects key) : ∃ r, s.module? m'.host key = some r ∧ r.source = f.source ∧
      ∃ f', Module.Factory.ofBody Module.Factory.loaderParams r.instrumented = .ok f' ∧ m'.registry.get? key = some f' := by
  obtain ⟨recorder, patched⟩ := start_patched started
  obtain ⟨r, read, entered, replaced, -⟩ := patched.selected key f registered selected
  exact ⟨_, entered, (r.source_cover recorder).trans (Record.source_ofFactory read), replaced⟩

/-- Functions are read back as they were written: the text around a body gives the parameters, which may repeat, and
the body on lines of its own, whatever it is. The source of any factory is the body that is read back from its text,
moved to the left. So when a session has patched a module and a later one reads it again, the later one reads the
generated text on lines of its own, if this text is not indented. -/
theorem patched_text_read_again :
    (∀ (params : List String) (body : String), (∀ p ∈ params, Identifier.IsName p) → ∃ f,
      Module.Factory.ofBody params body = .ok f ∧ f.params = params ∧ f.body = body ∧
        Module.Factory.ofFunctionText f.text = .ok ⟨params, f.text, "\n" ++ body ++ "\n"⟩) ∧
    (∀ f : Module.Factory, f.Made → ∃ read header behind,
      Module.Factory.ofFunctionText f.text = .ok read ∧ read.params = f.params ∧
        f.text.toList = header ++ '\x7b' :: (read.body.toList ++ '\x7d' :: behind) ∧ '\x7b' ∉ header ∧ '\x7d' ∉ behind ∧
          f.source.toList = Module.dedent read.body.toList) ∧
    ∀ (c : Config) (generated : String) (m m' : Machine (Ledger τ)) (s : Session), start c generated m = .ok s m' →
      ∀ key, m.registry.contains key → c.Selects key → ∃ r f, s.module? m'.host key = some r ∧
        m'.registry.get? key = some f ∧
        (f.source = "\n" ++ r.instrumented ++ "\n" ↔
          ∀ l ∈ firstLine? r.instrumented.toList, ∃ c rest, l = c :: rest ∧ Unicode.isBlank c = false) ∧
        ∀ (c₁ : Config) (generated₁ : String) (m₁ m₂ : Machine (Ledger τ)) (s₁ : Session),
          m₁.registry.get? key = some f → c₁.Selects key → start c₁ generated₁ m₁ = .ok s₁ m₂ →
            ∃ r₁, s₁.module? m₂.host key = some r₁ ∧ r₁.source = f.source := by
  refine ⟨fun params body valid => ?_, fun f made => ?_, ?_⟩
  · exact ⟨_, Module.Factory.ofBody_of_valid valid body, rfl, rfl, Module.Factory.ofFunctionText_around valid body⟩
  · obtain ⟨read, again, params⟩ := made.exists_read
    obtain ⟨header, behind, parts⟩ := Module.Factory.source_of_read again
    exact ⟨read, header, behind, again, params, parts⟩
  · intro c generated m m' s started key registered selected
    obtain ⟨f₀, found⟩ := (Table.contains_iff_get? ..).1 registered
    obtain ⟨r, entered, -, f, written, replaced⟩ := source_of_started started found selected
    refine ⟨r, f, entered, replaced, Module.Factory.source_around_iff written, ?_⟩
    intro c₁ generated₁ m₁ m₂ s₁ registered₁ selected₁ started₁
    obtain ⟨r₁, entered₁, same, -⟩ := source_of_started started₁ registered₁ selected₁
    exact ⟨r₁, entered₁, same⟩

/-- Whether a module has been patched with a text that is not indented, and another session starts behind that. -/
def patchesFlush (key : String) (c : Config) (s : Session) (m : Machine (Ledger τ)) : Bool :=
  (s.module? m.host key).any (fun r => (Module.indentation r.instrumented.toList).isEmpty) &&
    startsWith c m fun _ _ => true

/-- It is so for a function whose body is a brace, and for a module that two sessions patch one after the other. -/
theorem patched_text_read_again_twice :
    (∃ f, Module.Factory.ofBody ["_", "_"] "\x7d\x7b" = .ok f ∧
      Module.Factory.ofFunctionText f.text = .ok ⟨["_", "_"], f.text, "\n\x7d\x7b\n"⟩) ∧
    (∃ read, Module.Factory.ofFunctionText OneModule.factory.text = .ok read ∧
      OneModule.factory.source.toList = Module.dedent read.body.toList) ∧
    ∃ s m' r s₁ m₂ r₁, start { component := "m", recorderName := some "cov" } "" OneModule.machine = .ok s m' ∧
      s.module? m'.host "m/index.js" = some r ∧
      start { component := "m", recorderName := some "hits" } "" m' = .ok s₁ m₂ ∧
      s₁.module? m₂.host "m/index.js" = some r₁ ∧ r₁.source = "\n" ++ r.instrumented ++ "\n" := by
  obtain ⟨written, sources, again⟩ := patched_text_read_again (τ := Unit)
  refine ⟨?_, ?_, ?_⟩
  · obtain ⟨f, made, -, -, read⟩ := written ["_", "_"] "\x7d\x7b" (by decide +kernel)
    exact ⟨f, made, read⟩
  · obtain ⟨read, -, -, same, -, -, -, -, moved⟩ := sources OneModule.factory (.written Module.Factory.loaderParams "exports.a = 1;" rfl)
    exact ⟨read, same, moved⟩
  · obtain ⟨s, m', started, flush⟩ := exists_of_startsWith (c := { component := "m", recorderName := some "cov" })
      (m := OneModule.machine) (p := patchesFlush "m/index.js" { component := "m", recorderName := some "hits" })
      (by decide +kernel)
    rw [patchesFlush, Bool.and_eq_true, Option.any_eq_true] at flush
    obtain ⟨⟨r, entered, unindented⟩, next⟩ := flush
    obtain ⟨s₁, m₂, started₁, -⟩ := exists_of_startsWith next
    obtain ⟨r', f, entered', replaced, framed, later⟩ :=
      again _ _ _ _ _ started "m/index.js" (by decide) (by decide)
    obtain rfl : r' = r := Option.some.inj (entered'.symm.trans entered)
    obtain ⟨r₁, entered₁, same⟩ := later _ _ _ _ _ replaced (by decide) started₁
    refine ⟨s, m', r', s₁, m₂, r₁, started, entered, started₁, entered₁, same.trans (framed.2 ?_)⟩
    exact Module.indentation_eq_nil_iff.1 (List.isEmpty_iff.1 unindented)

end Session

end ScriptCoverage
