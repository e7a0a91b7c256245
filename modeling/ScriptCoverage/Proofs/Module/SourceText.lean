import ScriptCoverage.Proofs.Module.Indentation
import ScriptCoverage.Proofs.Text.Cutting

/-!
What a factory tells of its body. The loader runs the body as it is, while a session reads the source of the factory,
which is the text between the braces moved to the left. Main statements: `source_of_made` — the two differ in the
blanks at the starts of lines only, but a template keeps its value iff none of its further lines starts with the
indentation — and `source_is_another_program` — a template of such lines has another value in the source, and a body
behind a line for an interpreter runs while its source cannot be read.
-/

namespace ScriptCoverage

open Text

/-! ### Templates -/

namespace Source.Lexer

/-- Whether a character of a template stands for itself. -/
def isPlain (c : Char) : Bool := c != '\x60' && c != '$' && c != '\\' && c != '\r'

/-- What a lexer has read as a chunk of a template, if its escapes are valid. -/
def chunkValue? : EStateM.Result Failure Scan Token → Option String
  | .ok (.chunk cooked _) _ => cooked.toOption
  | _ => none

theorem bind_of_ok {α β : Type} {p : Lexer α} {mode : Mode} {s s' : Scan} {a : α} (h : p mode s = .ok a s')
    (f : α → Lexer β) : (p >>= f) mode s = f a mode s' := by
  change EStateM.bind (p mode) (fun a => f a mode) s = _
  rw [EStateM.bind, h]

/-- Whether a lexer reads a value where a chunk of a template comes next. -/
def ReadsChunk (text : List Char) (value : String) : Prop :=
  ∀ (start : Nat) (mode : Mode) (s : Scan), s.cursor.rest = text → chunkValue? (chunk start mode s) = some value

/-- Characters that stand for themselves are the value of a template. -/
theorem readsChunk_of_plain {cs : List Char} (plain : ∀ c ∈ cs, isPlain c = true) (rest : List Char) :
    ReadsChunk (cs ++ '\x60' :: rest) (String.ofList cs) := by
  intro start mode s here
  have taken : s.cursor.rest.takeWhile isPlain = cs := by
    rw [here, List.takeWhile_append_of_pos plain, List.takeWhile_cons_of_neg (by decide), List.append_nil]
  have behind : (s.cursor.skip cs.length).rest = '\x60' :: rest := by
    rw [Cursor.skip, here]
    exact List.drop_left
  have read : plainChunk mode s = .ok cs { s with cursor := s.cursor.skip cs.length } := by
    change EStateM.Result.ok (s.cursor.rest.takeWhile isPlain)
      { s with cursor := s.cursor.skip (s.cursor.rest.takeWhile isPlain).length } = _
    rw [taken]
  rw [chunk, bind_of_ok (p := cursor) rfl, bind_of_ok read, bind_of_ok (p := Lexer.rest) rfl, behind]
  rfl

end Source.Lexer

/-! ### Names -/

theorem Identifier.isPart_of_mem {name : String} (valid : Identifier.fault? name = none) {c : Char}
    (h : c ∈ name.toList) : Identifier.isPart c = true := by
  rw [Identifier.fault?] at valid
  split at valid
  · cases valid
  · next d cs hcs =>
    split at valid
    · cases valid
    · split at valid
      · cases valid
      · next all =>
        have := List.find?_eq_none.1 all c (hcs ▸ h)
        simpa using this

namespace Module

/-! ### Making factories -/

theorem valid_of_validName {cs : List Char} {name : String} (h : validName cs = .ok name) :
    Identifier.fault? (String.ofList cs) = none := by
  rw [validName, Source.checkIdentifier, Identifier.check] at h
  split at h
  · next valid => exact valid
  · cases h

theorem forall_ok_of_mapM {α β ε : Type} {f : α → Except ε β} {xs : List α} {ys : List β} (h : xs.mapM f = .ok ys) :
    ∀ x ∈ xs, ∃ y, f x = .ok y := by
  induction xs generalizing ys with
  | nil => exact fun x hx => absurd hx List.not_mem_nil
  | cons x xs ih =>
    rw [List.mapM_cons] at h
    cases hx : f x with
    | error e =>
      rw [hx] at h
      cases h
    | ok y =>
      cases hxs : xs.mapM f with
      | error e =>
        rw [hx, hxs] at h
        cases h
      | ok ys => exact List.forall_mem_cons.2 ⟨⟨y, hx⟩, ih hxs⟩

namespace Factory

/-- The text of a function around a body. -/
def around (params : List String) (body : String) : String :=
  "function(" ++ ", ".intercalate params ++ ")\x7b\n" ++ body ++ "\n\x7d"

theorem ofBody_eq_ok {params : List String} {body : String} {f : Factory} (h : ofBody params body = .ok f) :
    (∀ p ∈ params, Identifier.fault? p = none) ∧ f = ⟨params, around params body, body⟩ := by
  rw [ofBody] at h
  cases names : params.mapM fun p => validName p.toList with
  | error e =>
    rw [names] at h
    cases h
  | ok ns =>
    rw [names] at h
    refine ⟨fun p hp => ?_, (Except.ok.inj h).symm⟩
    obtain ⟨n, hn⟩ := forall_ok_of_mapM names p hp
    have valid := valid_of_validName hn
    rwa [String.ofList_toList] at valid

/-- Names hold no brace, so the first one is that of the body. -/
theorem cutBraces?_around {params : List String} (valid : ∀ p ∈ params, Identifier.fault? p = none) (body : String) :
    ∃ header, cutBraces? (around params body).toList = some (header, '\n' :: body.toList ++ ['\n']) := by
  have names : ∀ l ∈ params.map String.toList, '\x7b' ∉ l := by
    intro l hl
    obtain ⟨p, hp, rfl⟩ := List.mem_map.1 hl
    intro brace
    have := Identifier.isPart_of_mem (valid p hp) brace
    revert this
    decide
  have listed : '\x7b' ∉ ", ".toList.intercalate (params.map String.toList) := not_mem_intercalate (by decide) names
  let header := "function(".toList ++ ", ".toList.intercalate (params.map String.toList) ++ [')']
  have free : '\x7b' ∉ header := by
    simp only [header, List.mem_append, not_or]
    exact ⟨⟨by decide, listed⟩, by decide⟩
  have text : (around params body).toList = header ++ '\x7b' :: (('\n' :: body.toList ++ ['\n']) ++ ['\x7d']) := by
    simp only [around, header, String.toList_append, String.toList_intercalate]
    simp
  refine ⟨header, ?_⟩
  rw [cutBraces?, text, cutAt?_append_cons free]
  change (cutAtLast? '\x7d' _).map _ = _
  rw [cutAtLast?_append_cons List.not_mem_nil]
  rfl

/-! ### Sources -/

/-- The text between the braces of a factory. -/
def inner (f : Factory) : List Char := ((cutBraces? f.text.toList).map Prod.snd).getD []

theorem toList_source (f : Factory) : f.source.toList = dedent f.inner := by
  rw [source, functionSource, inner]
  cases cutBraces? f.text.toList with
  | none => rfl
  | some parts => exact String.toList_ofList

/-- A factory is taken from a function text or written around a body. -/
inductive Made (f : Factory) : Prop
  | taken (text : String) (h : ofFunctionText text = .ok f)
  | written (params : List String) (body : String) (h : ofBody params body = .ok f)

/-- Between the braces stands the body, on lines of its own if the function has been written around it. -/
theorem Made.inner_eq {f : Factory} (made : f.Made) :
    ∃ pad, (pad = [] ∨ pad = ['\n']) ∧ f.inner = pad ++ f.body.toList ++ pad := by
  cases made with
  | taken text h =>
    refine ⟨[], .inl rfl, ?_⟩
    rw [ofFunctionText] at h
    split at h
    · cases h
    · next header body cut =>
      cases hp : headerParameters header with
      | error e =>
        rw [hp] at h
        cases h
      | ok params =>
        rw [hp] at h
        cases h
        rw [inner, cut]
        simp
  | written params body h =>
    refine ⟨['\n'], .inr rfl, ?_⟩
    obtain ⟨valid, rfl⟩ := ofBody_eq_ok h
    obtain ⟨header, cut⟩ := cutBraces?_around valid body
    rw [inner, cut]
    rfl

/-- The indentation of what stands between the braces of a factory. -/
def indent (f : Factory) : List Char := indentation f.inner

/-- Between two characters that are no blanks stands in the source what stands there in the function, without the
indentation behind its line breaks. -/
theorem source_between {f : Factory} {before between after : List Char} {c d : Char} (hc : Unicode.isBlank c = false)
    (hd : Unicode.isBlank d = false) (here : f.inner = before ++ c :: (between ++ d :: after)) :
    f.source.toList =
      unindent f.indent before ++ c :: (unindentRest f.indent between ++ d :: unindentRest f.indent after) := by
  have plain : '\n' ∉ f.indent := break_not_mem_indentation f.inner
  have outside {x : Char} (hx : Unicode.isBlank x = false) : x ∉ f.indent := by
    intro inside
    rw [isBlank_of_mem_indentation inside] at hx
    cases hx
  have noBreak {x : Char} (hx : Unicode.isBlank x = false) : x ≠ '\n' := by
    rintro rfl
    revert hx
    decide
  calc f.source.toList
    _ = unindent f.indent f.inner := (toList_source f).trans (dedent_eq f.inner)
    _ = unindent f.indent (before ++ c :: (between ++ d :: after)) := congrArg _ here
    _ = unindent f.indent before ++ c :: unindentRest f.indent (between ++ d :: after) :=
      (unindent_append_cons plain (outside hc) (noBreak hc) before _).1
    _ = _ := by rw [(unindent_append_cons plain (outside hd) (noBreak hd) between after).2]

/-- What a factory tells of its body. The source is the text between the braces but for the blanks at the starts of
lines, and it is this text altogether iff it is not indented. What stands between two characters that are no blanks
stays what it is iff no line behind its first one starts with the indentation, and so does the value of a template. -/
theorem source_of_made {f : Factory} (made : f.Made) :
    (∃ pad, (pad = [] ∨ pad = ['\n']) ∧ f.inner = pad ++ f.body.toList ++ pad) ∧
    flush f.source.toList = flush f.inner ∧
    (f.source.toList = f.inner ↔ f.indent = []) ∧
    (∀ before c between d after, Unicode.isBlank c = false → Unicode.isBlank d = false →
      f.inner = before ++ c :: (between ++ d :: after) →
        f.source.toList =
          unindent f.indent before ++ c :: (unindentRest f.indent between ++ d :: unindentRest f.indent after)) ∧
    (∀ text, unindentRest f.indent text = text ↔ f.indent = [] ∨ ∀ line ∈ (pieces text).tail, ¬ f.indent <+: line) ∧
    ∀ text after, (∀ c ∈ text, Source.Lexer.isPlain c = true) →
      Source.Lexer.ReadsChunk (text ++ '\x60' :: after) (String.ofList text) ∧
      Source.Lexer.ReadsChunk (unindentRest f.indent text ++ '\x60' :: unindentRest f.indent after)
        (String.ofList (unindentRest f.indent text)) := by
  refine ⟨made.inner_eq, ?_, ?_, ?_, fun text => unindentRest_eq_self_iff, ?_⟩
  · rw [toList_source, flush_dedent]
  · rw [toList_source, indent, dedent_eq_self_iff]
  · intro before c between d after hc hd here
    exact source_between hc hd here
  · intro text after plain
    refine ⟨Source.Lexer.readsChunk_of_plain plain after, Source.Lexer.readsChunk_of_plain ?_ _⟩
    exact fun c hc => plain c (unindentRest_subset hc)

end Factory

/-! ### Modules for examples -/

namespace Indented

/-- The module `exports.a = ` with a template of two lines, both indented like the module. -/
def body : String := "  exports.a = `1\n  2`;"

def factory : Factory := ⟨Factory.loaderParams, Factory.around Factory.loaderParams body, body⟩

/-- The chunks of the template that a program assigns. -/
def assignedTemplate? : Except Source.ParseError Program → Option (List String)
  | .ok ⟨_, [.expression _ (.assign _ .assign _ (.template _ quasis _))]⟩ => some quasis
  | _ => none

end Indented

namespace Interpreted

/-- The module `exports.a = 1;` behind a line for an interpreter. -/
def body : String := "#!x\nexports.a = 1;"

def factory : Factory := ⟨Factory.loaderParams, Factory.around Factory.loaderParams body, body⟩

end Interpreted

namespace Factory

/-- It is so for a module with a template of two lines, whose second line starts with the indentation. -/
theorem source_of_made_indented :
    ofBody loaderParams Indented.body = .ok Indented.factory ∧
      Indented.factory.source.toList ≠ Indented.factory.inner ∧
      Indented.factory.source.toList = "\nexports.a = `1\n2`;\n".toList ∧
      Source.Lexer.ReadsChunk "1\n  2`;\n".toList "1\n  2" ∧ Source.Lexer.ReadsChunk "1\n2`;\n".toList "1\n2" ∧
      unindentRest Indented.factory.indent "1\n  2".toList ≠ "1\n  2".toList := by
  have written : ofBody loaderParams Indented.body = .ok Indented.factory := rfl
  obtain ⟨-, -, same, parts, kept, reads⟩ := source_of_made (.written _ _ written)
  have indent : Indented.factory.indent = [' ', ' '] := by decide +kernel
  obtain ⟨first, second⟩ := reads "1\n  2".toList ";\n".toList (List.all_eq_true.1 (by decide))
  have moved := parts "\n  exports.a = ".toList '\x60' "1\n  2".toList '\x60' ";\n".toList (by decide) (by decide)
    (by decide +kernel)
  rw [indent] at same kept second moved ⊢
  refine ⟨written, fun h => absurd (same.1 h) (by decide), moved.trans (by decide), first, second, fun h => ?_⟩
  have := (kept _).1 h
  revert this
  decide

/-- The source of a module need not be the program that runs: a template has another value in it, and where a line
for the interpreter comes first in the module there is no reading it, because a line break comes first in the
source. -/
theorem source_is_another_program :
    (ofBody loaderParams Indented.body = .ok Indented.factory ∧
      Indented.assignedTemplate? Indented.factory.compile = some ["1\n  2"] ∧
      Indented.assignedTemplate? (Source.compile Indented.factory.source) = some ["1\n2"]) ∧
    ofBody loaderParams Interpreted.body = .ok Interpreted.factory ∧
      Interpreted.factory.compile.isOk = true ∧ (Source.compile Interpreted.factory.source).isOk = false :=
  ⟨⟨rfl, by decide +kernel, by decide +kernel⟩, rfl, by decide +kernel, by decide +kernel⟩

end Factory

end Module

end ScriptCoverage
