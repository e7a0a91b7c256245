import ScriptCoverage.Proofs.Machine.StringMethods
import ScriptCoverage.Proofs.Pattern.Scanning
import ScriptCoverage.Proofs.Pattern.Stepping

/-!
Replacing matches in texts. The matches of a pattern cut a text into pieces (`Cuts`): what stands in front of each match,
the match, and the rest. Main statement: `replace_splices` — a text with its matches replaced is what stands around them,
as it was, with what each match is replaced by in between.
-/

namespace ScriptCoverage.Machine

open Pattern (Code Groups IsAt Regex)
open Text (OccursAt byteLength)

variable {σ : Type}

/-! ### Pieces of a text -/

/-- The text of a whole match. -/
def Match.whole (x : Match) : String := String.ofList (x.group 0)

/-- Whether matches lie one behind the other in what is left of a text from an offset on, with pieces of the text in front
of each of them and behind the last one. -/
inductive Cuts : Nat → List Char → List Match → List String → Prop
  | rest (start : Nat) (cs : List Char) : Cuts start cs [] [String.ofList cs]
  | piece {start : Nat} {gap whole behind : List Char} {x : Match} {ms : List Match} {gaps : List String}
      (span : x.span = ⟨start + byteLength gap, start + byteLength gap + byteLength whole⟩)
      (first : x.groups.head? = some (some (String.ofList whole)))
      (more : Cuts x.span.stop behind ms gaps) :
      Cuts start (gap ++ whole ++ behind) (x :: ms) (String.ofList gap :: gaps)

/-- Pieces of a text with other texts in between. -/
def interleave : List String → List String → String
  | gap :: gaps, new :: news => gap ++ new ++ interleave gaps news
  | gaps, _ => gaps.headD ""

theorem Match.whole_of_head? {x : Match} {cs : List Char} (h : x.groups.head? = some (some (String.ofList cs))) :
    x.whole = String.ofList cs := by
  rw [List.head?_eq_getElem?] at h
  rw [Match.whole, Match.group, h]
  exact congrArg String.ofList String.toList_ofList

variable {start : Nat} {cs : List Char} {ms : List Match} {gaps : List String}

/-- The pieces and the matches are the text. -/
theorem Cuts.interleave_whole (h : Cuts start cs ms gaps) : interleave gaps (ms.map Match.whole) = String.ofList cs := by
  induction h with
  | rest start cs => rfl
  | piece span first more ih =>
    rw [List.map_cons, interleave, Match.whole_of_head? first, ih, String.ofList_append, String.ofList_append]

/-- Splicing puts what replaces the matches in between the pieces. -/
theorem Cuts.splice {text : String} (h : Cuts start cs ms gaps) (here : IsAt text start cs)
    (replaced : Match → Run σ String) :
    Run.splice text replaced start ms = interleave gaps <$> ms.mapM replaced := by
  induction h with
  | rest start cs =>
    obtain ⟨pre, whole, rfl⟩ := here
    rw [Run.splice, whole, Text.dropBytes?_append]
    rfl
  | @piece start gap whole behind x ms gaps span first more ih =>
    obtain ⟨pre, same, rfl⟩ := here
    have slice : Text.slice? text (byteLength pre) x.span.start = some (String.ofList gap) := by
      rw [span]
      exact Text.slice?_append (by rw [same, List.append_assoc])
    have further : IsAt text x.span.stop behind := by
      refine ⟨pre ++ gap ++ whole, by rw [same, List.append_assoc, List.append_assoc, List.append_assoc], ?_⟩
      rw [span, Text.byteLength_append, Text.byteLength_append]
    rw [Run.splice, ih further, List.mapM_cons, slice]
    simp only [map_bind, bind_map_left, map_pure]
    rfl

/-! ### Matches -/

/-- Whether a regular expression was made from a source and flags, wherever its searches have got to. -/
def Heap.IsRead (h : Heap) (r : RegexRef) : Prop :=
  ∃ source flags x i, Regex.compile source flags = .ok x ∧ h.regex r = { x with lastIndex := i }

/-- Whether matches are the first occurrence of a text in another one, or none if there is none. -/
def FirstOnly (needle text : String) (ms : List Match) : Prop :=
  (¬ needle.toList <:+: text.toList ∧ ms = []) ∨
    ∃ before behind, text.toList = before ++ needle.toList ++ behind ∧
      (∀ j < before.length, ¬ OccursAt needle.toList text.toList j) ∧
      ms = [⟨⟨byteLength before, byteLength before + byteLength needle.toList⟩, [some needle]⟩]

/-- Whether matches are those of a pattern that are replaced in a text: those of a scan of the whole text for a global
regular expression, what a search finds for any other one, and the first occurrence of the text of anything else. -/
def Heap.Finds (h : Heap) (pattern : Value) (text : String) (ms : List Match) : Prop :=
  match pattern with
  | .regex r =>
    if (h.regex r).isGlobal then
      ∃ gs, (h.regex r).code.Scans none { rest := text.toList } gs ∧ ms = gs.map (.ofGroups text)
    else ms = (((h.regex r).code.findFrom text 0).map (.ofGroups text)).toList
  | v => FirstOnly (h.text v) text ms

/-- The machine behind a search for what is replaced: a global regular expression is at the start again. -/
def searched (m : Machine σ) : Value → Machine σ
  | .regex r => if (m.heap.regex r).isGlobal then { m with heap := m.heap.setLastIndex r 0 } else m
  | _ => m

/-- A match cuts what is left of a text. -/
theorem exists_piece {text : String} {g : Groups} (found : g.IsFound text start) (here : IsAt text start cs)
    {behind : List Char} (further : IsAt text g.whole.stop behind) :
    ∃ gap, ∀ ms gaps, Cuts g.whole.stop behind ms gaps → Cuts start cs (.ofGroups text g :: ms) (gap :: gaps) := by
  obtain ⟨gap, whole, rest, rfl, span, slice, there⟩ := found.parts here
  obtain rfl := there.unique further
  refine ⟨String.ofList gap, fun ms gaps more => .piece span ?_ more⟩
  rw [Match.ofGroups, List.head?_map, found.first]
  exact congrArg some slice

/-- The matches of a scan lie one behind the other. -/
theorem exists_cuts_of_scans (text : String) {code : Code} (sound : code.Sound) {lastStop : Option Nat}
    {at_ : Pattern.At} {gs : List Groups} (scans : code.Scans lastStop at_ gs) (here : IsAt text at_.offset at_.rest) :
    ∃ gaps, Cuts at_.offset at_.rest (gs.map (.ofGroups text)) gaps := by
  induction scans with
  | ended none => exact ⟨_, .rest _ _⟩
  | @found lastStop at_ behind g gs next onward rest ih =>
    obtain ⟨found, -⟩ := Code.nextMatch?_isFound sound here next
    obtain ⟨behind', place, offset, further, -⟩ := found.forward here
    obtain rfl := Option.some.inj (onward.symm.trans place)
    obtain ⟨gaps, more⟩ := ih further
    rw [offset] at further more
    obtain ⟨gap, cut⟩ := exists_piece found here further
    exact ⟨gap :: gaps, cut _ _ more⟩

/-- What a search finds lies in the text. -/
theorem exists_cuts_of_findFrom (text : String) {code : Code} (sound : code.Sound) :
    ∃ gaps, Cuts 0 text.toList ((code.findFrom text 0).map (Match.ofGroups text)).toList gaps := by
  cases search : code.findFrom text 0 with
  | none => exact ⟨_, .rest _ _⟩
  | some g =>
    have found := Code.findFrom_isFound sound search
    have here : IsAt text 0 text.toList := ⟨[], rfl, rfl⟩
    obtain ⟨gap, whole, behind, -, -, -, further⟩ := found.parts here
    obtain ⟨gap, cut⟩ := exists_piece found here further
    exact ⟨_, cut [] _ (.rest _ _)⟩

/-- The first occurrence of a text lies in the other one. -/
theorem exists_cuts_of_ofText? (needle text : String) :
    ∃ gaps, Cuts 0 text.toList (Match.ofText? needle text).toList gaps ∧
      FirstOnly needle text (Match.ofText? needle text).toList := by
  rw [Match.ofText?]
  cases place : Text.before? needle.toList text.toList with
  | none => exact ⟨_, .rest _ _, .inl ⟨Text.before?_eq_none place, rfl⟩⟩
  | some before =>
    obtain ⟨⟨behind, whole⟩, first⟩ := Text.before?_eq_some place
    rw [Option.map_some, Option.toList_some, Text.utf8ByteSize_eq]
    refine ⟨[String.ofList before, String.ofList behind], ?_, .inr ⟨before, behind, whole, first, rfl⟩⟩
    rw [whole]
    refine .piece ?_ ?_ (.rest _ behind)
    · rw [Nat.zero_add]
    · rw [String.ofList_toList]
      rfl

/-- A search for what is replaced finds matches that cut the text, and does not change anything else than where a global
regular expression has got to. -/
theorem exists_matches (m : Machine σ) (pattern : Value) (text : String)
    (read : ∀ r, pattern = .regex r → m.heap.IsRead r) :
    ∃ ms gaps, Run.matchesOf pattern text m = .ok ms (m.searched pattern) ∧ m.heap.Finds pattern text ms ∧
      Cuts 0 text.toList ms gaps := by
  -- All patterns but regular expressions are searched for as texts.
  have other (found : Run.matchesOf pattern text m = .ok (Match.ofText? (m.heap.text pattern) text).toList m)
      (still : m.searched pattern = m)
      (finds : ∀ ms, FirstOnly (m.heap.text pattern) text ms → m.heap.Finds pattern text ms) :
      ∃ ms gaps, Run.matchesOf pattern text m = .ok ms (m.searched pattern) ∧ m.heap.Finds pattern text ms ∧
        Cuts 0 text.toList ms gaps := by
    obtain ⟨gaps, cuts, first⟩ := exists_cuts_of_ofText? (m.heap.text pattern) text
    exact ⟨_, gaps, by rw [still]; exact found, finds _ first, cuts⟩
  cases pattern with
  | regex r =>
    have sound : (m.heap.regex r).code.Sound := by
      obtain ⟨source, flags, x, i, compiled, same⟩ := read r rfl
      rw [same]
      exact (Regex.compile_sound compiled).1
    have searched : Run.matchesOf (.regex r) text m =
        (if (m.heap.regex r).isGlobal then do
          Run.change (·.setLastIndex r 0)
          return ((m.heap.regex r).code.findAll text).map (.ofGroups text)
        else return (((m.heap.regex r).code.findFrom text 0).map (Match.ofGroups text)).toList : Run σ (List Match)) m := rfl
    have finds (ms : List Match) : m.heap.Finds (.regex r) text ms =
        if (m.heap.regex r).isGlobal then
          ∃ gs, (m.heap.regex r).code.Scans none { rest := text.toList } gs ∧ ms = gs.map (.ofGroups text)
        else ms = (((m.heap.regex r).code.findFrom text 0).map (.ofGroups text)).toList := rfl
    -- a global expression is searched for to the end of the text, any other one once
    by_cases isGlobal : (m.heap.regex r).isGlobal
    · have scans := Code.findAll_scans sound text
      obtain ⟨gaps, cuts⟩ := exists_cuts_of_scans text sound scans ⟨[], rfl, rfl⟩
      rw [searched, if_pos isGlobal, Machine.searched, if_pos isGlobal]
      exact ⟨_, gaps, rfl, by rw [finds, if_pos isGlobal]; exact ⟨_, scans, rfl⟩, cuts⟩
    · obtain ⟨gaps, cuts⟩ := exists_cuts_of_findFrom text sound
      rw [searched, if_neg isGlobal, Machine.searched, if_neg isGlobal]
      exact ⟨_, gaps, rfl, by rw [finds, if_neg isGlobal], cuts⟩
  | _ => exact other rfl rfl fun _ first => first

/-! ### What matches are replaced by -/

/-- The arguments of a function that replaces a match. -/
def Match.arguments (text : String) (x : Match) : List Value :=
  (x.groups.map fun g => (g.map Value.string).getD .undefined) ++ [.ofNat (Text.unitOf text x.span.start), .string text]

/-- What the calls of a function for some matches, one after the other and none of them failing, give: values, each with
the text that it has then. -/
inductive Answers (call : Caller σ) (text : String) (f : Value) :
    List Match → Machine σ → List (Value × String) → Machine σ → Prop
  | ended (m : Machine σ) : Answers call text f [] m [] m
  | answer {x : Match} {ms : List Match} {m m₁ m₂ : Machine σ} {v : Value} {answers : List (Value × String)}
      (given : call f .undefined (x.arguments text) m = .ok v m₁) (more : Answers call text f ms m₁ answers m₂) :
      Answers call text f (x :: ms) m ((v, m₁.heap.text v) :: answers) m₂

variable {call : Caller σ} {m m' : Machine σ} {text : String} {pattern replacement : Value}

/-- Matches are replaced by the texts of what a function gives for them. -/
theorem mapM_replacementOf_function (function : replacement.isFunction = true) {news : List String} :
    ms.mapM (Run.replacementOf call text replacement) m = .ok news m' ↔
      ∃ answers, Answers call text replacement ms m answers m' ∧ news = answers.map Prod.snd := by
  have one (x : Match) : Run.replacementOf call text replacement x =
      call replacement .undefined (x.arguments text) >>= fun v => Run.see (·.text v) := by
    unfold Run.replacementOf
    rw [if_pos function]
    rfl
  induction ms generalizing m news with
  | nil =>
    constructor
    · intro h
      cases h
      exact ⟨[], .ended _, rfl⟩
    · rintro ⟨answers, given, rfl⟩
      cases given
      rfl
  | cons x ms ih =>
    rw [List.mapM_cons, one]
    constructor
    · intro h
      obtain ⟨new, m₁, first, others⟩ := Run.bind_eq_ok_iff.1 h
      obtain ⟨v, _, given, seen⟩ := Run.bind_eq_ok_iff.1 first
      cases seen
      obtain ⟨news, _, rest, done⟩ := Run.bind_eq_ok_iff.1 others
      cases done
      obtain ⟨answers, more, rfl⟩ := ih.1 rest
      exact ⟨_, .answer given more, rfl⟩
    · rintro ⟨answers, given, rfl⟩
      cases given with
      | answer given more =>
        have rest := ih.2 ⟨_, more, rfl⟩
        exact Run.bind_eq_ok_iff.2
          ⟨_, _, Run.bind_eq_ok_iff.2 ⟨_, _, given, rfl⟩, Run.bind_eq_ok_iff.2 ⟨_, _, rest, rfl⟩⟩

/-- Matches are replaced by what a template is filled in to for them. -/
theorem mapM_replacementOf_template (template : replacement.isFunction = false) :
    ms.mapM (Run.replacementOf call text replacement) m =
      .ok (ms.map fun x => String.ofList (expand x (m.heap.text replacement).toList)) m := by
  have one (x : Match) : Run.replacementOf call text replacement x =
      Run.see fun h => String.ofList (expand x (h.text replacement).toList) := by
    unfold Run.replacementOf
    rw [template]
    rfl
  induction ms with
  | nil => rfl
  | cons x ms ih =>
    rw [List.mapM_cons, one]
    exact Run.bind_eq_ok_iff.2 ⟨_, _, rfl, Run.bind_eq_ok_iff.2 ⟨_, _, ih, rfl⟩⟩

theorem expand_whole (x : Match) : String.ofList (expand x "$&".toList) = x.whole := by
  change String.ofList (x.group 0 ++ []) = x.whole
  rw [List.append_nil, Match.whole]

/-- Answers that are the texts of the matches are these texts. -/
theorem Answers.whole (h : Answers call text replacement ms m answers m') (cuts : Cuts start cs ms gaps)
    (first : answers.map Prod.fst = ms.map fun x => Value.argument (x.arguments text) 0) :
    answers.map Prod.snd = ms.map Match.whole := by
  induction h generalizing start cs gaps with
  | ended m => rfl
  | @answer x ms m m₁ m₂ v answers given more ih =>
    cases cuts with
    | piece span head rest =>
      obtain ⟨own, others⟩ := List.cons_eq_cons.1 first
      obtain ⟨groups, all⟩ := List.head?_eq_some_iff.1 head
      have argument : Value.argument (x.arguments text) 0 = .string x.whole := by
        rw [Match.arguments, all, Match.whole_of_head? head]
        rfl
      have value : v = .string x.whole := own.trans argument
      rw [List.map_cons, List.map_cons, ih rest others, value, Heap.text_string]

/-! ### Replacing -/

section

variable {m₁ : Machine σ} (found : Run.matchesOf pattern text m = .ok ms m₁) (cuts : Cuts 0 text.toList ms gaps)

include found cuts

theorem replace_eq :
    Run.replace call text pattern replacement m =
      (interleave gaps <$> ms.mapM (Run.replacementOf call text replacement)) m₁ := by
  rw [← cuts.splice ⟨[], rfl, rfl⟩]
  change EStateM.bind (Run.matchesOf pattern text) (Run.splice text (Run.replacementOf call text replacement) 0) m = _
  rw [EStateM.bind, found]

theorem replace_eq_ok_iff {new : String} :
    Run.replace call text pattern replacement m = .ok new m' ↔
      ∃ news, ms.mapM (Run.replacementOf call text replacement) m₁ = .ok news m' ∧ new = interleave gaps news := by
  rw [replace_eq found cuts]
  constructor
  · intro h
    obtain ⟨news, _, all, together⟩ := Run.bind_eq_ok_iff.1 h
    cases together
    exact ⟨news, all, rfl⟩
  · rintro ⟨news, all, rfl⟩
    exact Run.bind_eq_ok_iff.2 ⟨_, _, all, rfl⟩

/-- Texts that are those of the matches leave the text as it was. -/
theorem replace_eq_text (all : ms.mapM (Run.replacementOf call text replacement) m₁ = .ok (ms.map Match.whole) m') :
    Run.replace call text pattern replacement m = .ok text m' := by
  refine (replace_eq_ok_iff found cuts).2 ⟨_, all, ?_⟩
  rw [cuts.interleave_whole, String.ofList_toList]

theorem replace_function (function : replacement.isFunction = true) (m' : Machine σ) :
    (∀ new, Run.replace call text pattern replacement m = .ok new m' ↔
      ∃ answers, Answers call text replacement ms m₁ answers m' ∧ new = interleave gaps (answers.map Prod.snd)) ∧
    ∀ answers, Answers call text replacement ms m₁ answers m' →
      (answers.map Prod.fst = ms.map fun x => Value.argument (x.arguments text) 0) →
      Run.replace call text pattern replacement m = .ok text m' := by
  refine ⟨fun new => ?_, fun answers given first => ?_⟩
  · rw [replace_eq_ok_iff found cuts]
    constructor
    · rintro ⟨news, all, rfl⟩
      obtain ⟨answers, given, rfl⟩ := (mapM_replacementOf_function function).1 all
      exact ⟨answers, given, rfl⟩
    · rintro ⟨answers, given, rfl⟩
      exact ⟨_, (mapM_replacementOf_function function).2 ⟨answers, given, rfl⟩, rfl⟩
  · refine replace_eq_text found cuts ?_
    rw [← given.whole cuts first]
    exact (mapM_replacementOf_function function).2 ⟨answers, given, rfl⟩

theorem replace_template (template : replacement.isFunction = false) :
    let template := m₁.heap.text replacement
    Run.replace call text pattern replacement m =
        .ok (interleave gaps (ms.map fun x => String.ofList (expand x template.toList))) m₁ ∧
      (template = "$&" → Run.replace call text pattern replacement m = .ok text m₁) := by
  have filled : ms.mapM (Run.replacementOf call text replacement) m₁ =
      .ok (ms.map fun x => String.ofList (expand x (m₁.heap.text replacement).toList)) m₁ :=
    mapM_replacementOf_template template
  refine ⟨(replace_eq_ok_iff found cuts).2 ⟨_, filled, rfl⟩, fun same => replace_eq_text found cuts ?_⟩
  rw [filled, same, funext expand_whole]

end

/-- A text with the matches of a pattern replaced is what stands around them in the text, in the same order and as it was,
with what each match is replaced by in between. -/
theorem replace_splices (read : ∀ r, pattern = .regex r → m.heap.IsRead r) :
    ∃ ms gaps, m.heap.Finds pattern text ms ∧ Cuts 0 text.toList ms gaps ∧
      interleave gaps (ms.map Match.whole) = text ∧
      let m₁ := m.searched pattern
      let result := Run.replace call text pattern replacement m
      result = (interleave gaps <$> ms.mapM (Run.replacementOf call text replacement)) m₁ ∧
      (ms = [] → result = .ok text m₁) ∧
      (replacement.isFunction = false →
        let template := m₁.heap.text replacement
        result = .ok (interleave gaps (ms.map fun x => String.ofList (expand x template.toList))) m₁ ∧
          (template = "$&" → result = .ok text m₁)) ∧
      (replacement.isFunction = true → ∀ m',
        (∀ new, result = .ok new m' ↔ ∃ answers, Answers call text replacement ms m₁ answers m' ∧
          new = interleave gaps (answers.map Prod.snd)) ∧
        ∀ answers, Answers call text replacement ms m₁ answers m' →
          (answers.map Prod.fst = ms.map fun x => Value.argument (x.arguments text) 0) → result = .ok text m') := by
  obtain ⟨ms, gaps, found, finds, cuts⟩ := exists_matches m pattern text read
  have whole : interleave gaps (ms.map Match.whole) = text := by rw [cuts.interleave_whole, String.ofList_toList]
  refine ⟨ms, gaps, finds, cuts, whole, replace_eq found cuts, ?_, replace_template found cuts, replace_function found cuts⟩
  rintro rfl
  exact replace_eq_text found cuts rfl

namespace Splicing

/-- A machine with a global expression that also finds the empty text. -/
def machine : Machine Unit := machineOf (Run.newRegex "é|x*" "g" (initial ()))

theorem isRead : machine.heap.IsRead ⟨0⟩ := by
  obtain ⟨x, compiled, -⟩ : ∃ x, Regex.compile "é|x*" "g" = .ok x ∧ x.isGlobal = true :=
    Regex.exists_of_compile (by decide +kernel)
  refine ⟨"é|x*", "g", x, x.lastIndex, compiled, ?_⟩
  have added : machine = machineOf (Run.newRegex "é|x*" "g" (initial ())) := rfl
  rw [added, Run.newRegex, compiled]
  rfl

/-- A function that nothing calls. -/
def inert : Caller Unit := fun _ _ _ => return .undefined

end Splicing

open Splicing in
/-- A text of characters of one and of two bytes, with its matches in brackets, and with each replaced by itself. -/
theorem replace_splices_brackets :
    (∀ r, Value.regex ⟨0⟩ = .regex r → machine.heap.IsRead r) ∧
    value? (Run.replace inert "aéxxé" (.regex ⟨0⟩) (.string "[$&]") machine) = some "[]a[é][xx][é]" ∧
    Run.replace inert "aéxxé" (.regex ⟨0⟩) (.string "$&") machine = .ok "aéxxé" (machine.searched (.regex ⟨0⟩)) := by
  have read : ∀ r, Value.regex ⟨0⟩ = .regex r → machine.heap.IsRead r := by
    rintro r ⟨⟩
    exact isRead
  refine ⟨read, by decide +kernel, ?_⟩
  obtain ⟨ms, gaps, -, -, -, -, -, template, -⟩ :=
    @replace_splices Unit inert machine "aéxxé" (.regex ⟨0⟩) (.string "$&") read
  exact (template rfl).2 (Heap.text_string _ _)

end ScriptCoverage.Machine
