import ScriptCoverage.Proofs.Module.SourceText

/-!
Which texts are functions. A header takes the word `function`, a name that may be missing, and the names of the
parameters in parentheses; a body in braces follows. Main statements: `function_texts_accepted` — a text is accepted iff
it is such a function with anything behind it that closes no brace, and is taken apart into the names and the text
between the braces — and `text_behind_accepted` — so a text that goes on behind the function is taken for one.
-/

namespace ScriptCoverage

open Text

/-! ### Names -/

namespace Identifier

/-- A name: letters, digits, `_` and `$`, no digit first, and no word of the language. -/
structure IsName (name : String) : Prop where
  start : ∃ c ∈ name.toList.head?, isStart c = true
  parts : ∀ c ∈ name.toList, isPart c = true
  unreserved : name ∉ reservedWords

theorem toNat_of_isDigit {c : Char} (h : c.isDigit = true) : 48 ≤ c.toNat ∧ c.toNat ≤ 57 := by
  obtain ⟨low, high⟩ := Bool.and_eq_true_iff.1 (show (decide ('0'.val ≤ c.val) && decide (c.val ≤ '9'.val)) = true from h)
  exact ⟨UInt32.le_iff_toNat_le.1 (of_decide_eq_true low), UInt32.le_iff_toNat_le.1 (of_decide_eq_true high)⟩

theorem toNat_of_isAlpha {c : Char} (h : c.isAlpha = true) : 65 ≤ c.toNat ∧ c.toNat ≤ 122 := by
  rcases Bool.or_eq_true_iff.1 (show (c.isUpper || c.isLower) = true from h) with upper | lower
  · obtain ⟨low, high⟩ : 'A'.val ≤ c.val ∧ c.val ≤ 'Z'.val := of_decide_eq_true upper
    have high : c.toNat ≤ 90 := UInt32.le_iff_toNat_le.1 high
    exact ⟨UInt32.le_iff_toNat_le.1 low, by omega⟩
  · obtain ⟨low, high⟩ := Bool.and_eq_true_iff.1 (show (decide ('a'.val ≤ c.val) && decide (c.val ≤ 'z'.val)) = true from lower)
    have low : 97 ≤ c.toNat := UInt32.le_iff_toNat_le.1 (of_decide_eq_true low)
    exact ⟨by omega, UInt32.le_iff_toNat_le.1 (of_decide_eq_true high)⟩

theorem toNat_of_isPart {c : Char} (h : isPart c = true) : 36 ≤ c.toNat ∧ c.toNat < 128 := by
  simp only [isPart, Bool.or_eq_true, beq_iff_eq] at h
  rcases h with (h | rfl) | rfl
  · rcases Bool.or_eq_true_iff.1 (show (c.isAlpha || c.isDigit) = true from h) with letter | digit
    · have := toNat_of_isAlpha letter
      omega
    · have := toNat_of_isDigit digit
      omega
  · decide
  · decide

theorem isBlank_of_isPart {c : Char} (h : isPart c = true) : Unicode.isBlank c = false := by
  obtain ⟨low, high⟩ := toNat_of_isPart h
  have space : c ≠ ' ' := by
    rintro rfl
    revert low
    decide
  rw [Unicode.isBlank, if_pos high, beq_false_of_ne space]
  simp
  omega

/-- A character may start a name iff it may be in one and is no digit. -/
theorem isStart_iff (c : Char) : isStart c = true ↔ isPart c = true ∧ c.isDigit = false := by
  cases digit : c.isDigit with
  | false => simp [isStart, isPart, Char.isAlphanum, digit]
  | true =>
    refine iff_of_false (fun start => ?_) (by simp)
    simp only [isStart, Bool.or_eq_true, beq_iff_eq] at start
    rcases start with (letter | rfl) | rfl
    · have := toNat_of_isAlpha letter
      have := toNat_of_isDigit digit
      omega
    · revert digit
      decide
    · revert digit
      decide

theorem fault?_eq_none_iff {name : String} : fault? name = none ↔ IsName name := by
  rw [fault?]
  split
  · next empty => exact iff_of_false (Option.some_ne_none _) fun h => by simpa [empty] using h.start
  · next c cs spelled =>
    split
    · next digit =>
      refine iff_of_false (Option.some_ne_none _) fun h => ?_
      obtain ⟨d, first, start⟩ := h.start
      obtain rfl : c = d := by simpa [spelled] using first
      simp [((isStart_iff c).1 start).2] at digit
    · next noDigit =>
      split
      · next bad found =>
        refine iff_of_false (Option.some_ne_none _) fun h => ?_
        have part := h.parts bad (spelled ▸ List.mem_of_find?_eq_some found)
        simpa [part] using List.find?_some found
      · next all =>
        have parts : ∀ d ∈ name.toList, isPart d = true := fun d hd => by
          simpa using List.find?_eq_none.1 all d (spelled ▸ hd)
        have start : isStart c = true := (isStart_iff c).2 ⟨parts c (by simp [spelled]), by simpa using noDigit⟩
        rw [ite_eq_right_iff]
        constructor
        · intro free
          refine ⟨⟨c, by simp [spelled], start⟩, parts, fun listed => ?_⟩
          exact Option.some_ne_none _ (free (List.contains_iff_mem.2 listed))
        · intro h listed
          exact absurd (List.contains_iff_mem.1 listed) h.unreserved

instance (name : String) : Decidable (IsName name) := decidable_of_iff _ fault?_eq_none_iff

variable {name : String}

theorem IsName.not_mem (h : IsName name) {c : Char} (other : isPart c = false) : c ∉ name.toList := fun inside => by
  simp [h.parts c inside] at other

/-- Blanks around a name are none of its characters. -/
theorem IsName.isTrimmed (h : IsName name) : IsTrimmed name.toList :=
  ⟨fun c hc => isBlank_of_isPart (h.parts c (List.mem_of_mem_head? hc)),
    fun c hc => isBlank_of_isPart (h.parts c (List.mem_of_mem_getLast? hc))⟩

end Identifier

namespace Module

open Identifier (IsName)

/-- A name with blanks around it. -/
structure IsPadded (name : String) (cs : List Char) : Prop where
  isName : IsName name
  padding : ∃ before behind, isBlankText before = true ∧ isBlankText behind = true ∧ cs = before ++ name.toList ++ behind

theorem validName_eq_ok_iff {cs : List Char} {name : String} :
    validName cs = .ok name ↔ name = String.ofList cs ∧ IsName name := by
  rw [validName, Source.checkIdentifier, Identifier.check]
  split
  · next valid =>
    refine Iff.trans ?_ (and_iff_left_of_imp fun same => same ▸ Identifier.fault?_eq_none_iff.1 valid).symm
    exact ⟨fun h => (Except.ok.inj h).symm, fun h => congrArg Except.ok h.symm⟩
  · next fault invalid =>
    refine iff_of_false (fun h => by cases h) ?_
    rintro ⟨rfl, isName⟩
    rw [Identifier.fault?_eq_none_iff.2 isName] at invalid
    cases invalid

theorem validName_trim_eq_ok_iff {cs : List Char} {name : String} : validName (trim cs) = .ok name ↔ IsPadded name cs := by
  rw [validName_eq_ok_iff]
  constructor
  · rintro ⟨rfl, isName⟩
    obtain ⟨before, behind, hb, ha, whole⟩ := exists_trim cs
    exact ⟨isName, before, behind, hb, ha, by rwa [String.toList_ofList]⟩
  · rintro ⟨isName, before, behind, hb, ha, rfl⟩
    refine ⟨?_, isName⟩
    rw [isName.isTrimmed.trim_eq hb ha, String.ofList_toList]

/-- Parameters are valid iff each of them is a name between blanks. -/
theorem validParameters_eq_ok_iff {parts : List (List Char)} {names : List String} :
    validParameters parts = .ok names ↔ List.Forall₂ IsPadded names parts := by
  induction parts generalizing names with
  | nil =>
    rw [List.forall₂_nil_right_iff]
    exact ⟨fun h => (Except.ok.inj h).symm, fun h => congrArg Except.ok h.symm⟩
  | cons part parts ih =>
    rw [validParameters, List.forall₂_cons_right_iff]
    cases first : validName (trim part) with
    | error e =>
      refine iff_of_false nofun ?_
      rintro ⟨name, -, padded, -, -⟩
      exact nomatch (validName_trim_eq_ok_iff.2 padded).symm.trans first
    | ok name =>
      have padded := validName_trim_eq_ok_iff.1 first
      cases later : validParameters parts with
      | error e =>
        refine iff_of_false nofun ?_
        rintro ⟨-, names', -, each, -⟩
        exact nomatch (ih.2 each).symm.trans later
      | ok names' =>
        constructor
        · intro h
          exact ⟨name, names', padded, ih.1 later, (Except.ok.inj h).symm⟩
        · rintro ⟨name', names'', padded', each, rfl⟩
          obtain rfl : name' = name := Except.ok.inj ((validName_trim_eq_ok_iff.2 padded').symm.trans first)
          obtain rfl : names'' = names' := Except.ok.inj ((ih.2 each).symm.trans later)
          rfl

/-! ### Headers -/

/-- What declares parameters between parentheses: names with commas between them, or blanks where there are none. -/
inductive Declares : List String → List Char → Prop
  | none {cs : List Char} (blank : isBlankText cs = true) : Declares [] cs
  | some {names : List String} {parts : List (List Char)} (given : names ≠ [])
    (each : List.Forall₂ IsPadded names parts) : Declares names ([','].intercalate parts)

/-- What may stand between the word `function` and the parameters: blanks, or a name that a blank sets off. -/
inductive MayName (cs : List Char) : Prop
  | nothing (blank : isBlankText cs = true)
  | name {name : String} (padded : IsPadded name cs) (setOff : ∃ c ∈ cs.head?, Unicode.isBlank c = true)

/-- What stands in front of the body of a function with given parameters. -/
inductive IsHeader (params : List String) : List Char → Prop
  | mk {before name list behind : List Char} (blankBefore : isBlankText before = true) (mayName : MayName name)
    (declares : Declares params list) (blankBehind : isBlankText behind = true) :
    IsHeader params (before ++ "function".toList ++ name ++ '(' :: list ++ ')' :: behind)

theorem not_mem_of_isBlankText {c : Char} {cs : List Char} (blank : isBlankText cs = true)
    (other : Unicode.isBlank c = false) : c ∉ cs := fun inside => by
  simp [isBlankText_iff.1 blank c inside] at other

theorem IsPadded.not_mem {name : String} {cs : List Char} (h : IsPadded name cs) {c : Char}
    (noBlank : Unicode.isBlank c = false) (noPart : Identifier.isPart c = false) : c ∉ cs := by
  obtain ⟨isName, before, behind, hb, ha, rfl⟩ := h
  simp [not_mem_of_isBlankText hb noBlank, not_mem_of_isBlankText ha noBlank, isName.not_mem noPart]

theorem MayName.not_mem {cs : List Char} (h : MayName cs) {c : Char} (noBlank : Unicode.isBlank c = false)
    (noPart : Identifier.isPart c = false) : c ∉ cs := by
  cases h with
  | nothing blank => exact not_mem_of_isBlankText blank noBlank
  | name padded => exact padded.not_mem noBlank noPart

theorem parts_not_mem {names : List String} {parts : List (List Char)} (each : List.Forall₂ IsPadded names parts)
    {c : Char} (noBlank : Unicode.isBlank c = false) (noPart : Identifier.isPart c = false) :
    ∀ part ∈ parts, c ∉ part := by
  induction each with
  | nil => exact nofun
  | cons padded _ ih => exact List.forall_mem_cons.2 ⟨padded.not_mem noBlank noPart, ih⟩

theorem Declares.not_mem {names : List String} {cs : List Char} (h : Declares names cs) {c : Char}
    (noBlank : Unicode.isBlank c = false) (noPart : Identifier.isPart c = false) (noComma : c ≠ ',') : c ∉ cs := by
  cases h with
  | none blank => exact not_mem_of_isBlankText blank noBlank
  | some given each => exact not_mem_intercalate (by simpa using noComma) (parts_not_mem each noBlank noPart)

theorem IsHeader.not_mem {params : List String} {cs : List Char} (h : IsHeader params cs) : '\x7b' ∉ cs := by
  obtain ⟨hb, hname, hlist, ha⟩ := h
  have noBlank : Unicode.isBlank '\x7b' = false := by decide
  have noPart : Identifier.isPart '\x7b' = false := by decide
  simp [not_mem_of_isBlankText hb noBlank, hname.not_mem noBlank noPart, hlist.not_mem noBlank noPart (by decide),
    not_mem_of_isBlankText ha noBlank]

theorem IsPadded.isBlankText_eq {name : String} {cs : List Char} (h : IsPadded name cs) : isBlankText cs = false := by
  obtain ⟨isName, before, behind, -, -, rfl⟩ := h
  obtain ⟨c, first, start⟩ := isName.start
  have here : c ∈ before ++ name.toList ++ behind := by simp [List.mem_of_mem_head? first]
  rw [← Bool.not_eq_true]
  exact fun blank => not_mem_of_isBlankText blank (Identifier.isBlank_of_isPart ((Identifier.isStart_iff c).1 start).1) here

/-- What stands between the parentheses is read as the parameters that it declares. -/
theorem declares_iff {names : List String} {cs : List Char} :
    Declares names cs ↔ (if isBlankText cs then .ok [] else validParameters (splitAt ',' cs)) = .ok names := by
  constructor
  · rintro (blank | ⟨given, each⟩)
    · rw [if_pos blank]
    · cases each with
      | nil => exact absurd rfl given
      | @cons name part names parts padded each =>
        have filled : ¬ isBlankText ([','].intercalate (part :: parts)) = true := fun blank => by
          have first := isBlankText_of_subset (subset_intercalate [','] List.mem_cons_self) blank
          rw [padded.isBlankText_eq] at first
          cases first
        have free := parts_not_mem (.cons padded each) (c := ',') (by decide) (by decide)
        rw [if_neg filled, splitAt_intercalate free (List.cons_ne_nil _ _), validParameters_eq_ok_iff]
        exact .cons padded each
  · intro h
    split at h
    · next blank =>
      cases h
      exact .none blank
    · have each := validParameters_eq_ok_iff.1 h
      have whole : [','].intercalate (splitAt ',' cs) = cs := by rw [splitAt_eq_splitOn, List.intercalate_splitOn]
      rw [← whole]
      refine .some (fun empty => ?_) each
      rw [empty, List.forall₂_nil_left_iff, splitAt_eq_splitOn] at each
      exact List.splitOn_ne_nil ',' cs each

/-- The parameters that stand in front of the first closing parenthesis, with blanks behind it. -/
def parametersUpTo (tail : List Char) : Except FactoryFault (List String) :=
  match cutAt? ')' tail with
  | none => .error .openParameters
  | some (list, behind) =>
    if !isBlankText behind then .error .textBeforeBody
    else if isBlankText list then .ok [] else validParameters (splitAt ',' list)

theorem headerParameters_eq (header : List Char) : headerParameters header =
    match dropStart? "function".toList (trim header) with
    | none => .error .noFunction
    | some rest =>
      if !rest.head?.any (fun c => c = '(' || Unicode.isBlank c) then .error .noFunction
      else match cutAt? '(' rest with
        | none => .error .noParameters
        | some (name, tail) =>
          if !isBlankText name then validName (trim name) >>= fun _ => parametersUpTo tail else parametersUpTo tail := by
  rfl

theorem parametersUpTo_eq_ok_iff {tail : List Char} {params : List String} : parametersUpTo tail = .ok params ↔
    ∃ list behind, tail = list ++ ')' :: behind ∧ ')' ∉ list ∧ isBlankText behind = true ∧ Declares params list := by
  rw [parametersUpTo]
  cases cut : cutAt? ')' tail with
  | none =>
    refine iff_of_false nofun ?_
    rintro ⟨list, behind, whole, first, -⟩
    exact nomatch cut.symm.trans (cutAt?_eq_some_iff.2 ⟨whole, first⟩)
  | some parts =>
    obtain ⟨list, behind⟩ := parts
    obtain ⟨whole, first⟩ := cutAt?_eq_some_iff.1 cut
    have unique {list' behind' : List Char} (whole' : tail = list' ++ ')' :: behind') (first' : ')' ∉ list') :
        list = list' ∧ behind = behind' :=
      Prod.mk.inj (Option.some.inj (cut.symm.trans (cutAt?_eq_some_iff.2 ⟨whole', first'⟩)))
    dsimp only
    cases blank : isBlankText behind with
    | false =>
      refine iff_of_false nofun ?_
      rintro ⟨list', behind', whole', first', blank', -⟩
      rw [← (unique whole' first').2, blank] at blank'
      cases blank'
    | true =>
      constructor
      · exact fun h => ⟨list, behind, whole, first, blank, declares_iff.2 h⟩
      · rintro ⟨list', behind', whole', first', -, declares⟩
        rw [← (unique whole' first').1] at declares
        exact declares_iff.1 declares

/-- What is read as a header is one. -/
theorem isHeader_of_headerParameters {header : List Char} {params : List String}
    (h : headerParameters header = .ok params) : IsHeader params header := by
  obtain ⟨before, after, hb, ha, whole⟩ := exists_trim header
  rw [headerParameters_eq] at h
  split at h
  · cases h
  · next rest started =>
    split at h
    · cases h
    · next opens =>
      split at h
      · cases h
      · next name tail cut =>
        obtain ⟨rfl, first⟩ := cutAt?_eq_some_iff.1 cut
        have read : MayName name ∧ parametersUpTo tail = .ok params := by
          cases blank : isBlankText name with
          | true =>
            rw [blank] at h
            exact ⟨.nothing blank, h⟩
          | false =>
            rw [blank] at h
            cases named : validName (trim name) with
            | error e =>
              rw [named] at h
              cases h
            | ok n =>
              rw [named] at h
              refine ⟨.name (validName_trim_eq_ok_iff.1 named) ?_, h⟩
              -- The word stands in front of a blank or of the parenthesis, which is not in the name.
              cases name with
              | nil => cases blank
              | cons c cs =>
                have other : c ≠ '(' := fun same => first (same ▸ List.mem_cons_self)
                exact ⟨c, rfl, by simpa [other] using opens⟩
        obtain ⟨list, behind, rfl, -, blank, declares⟩ := parametersUpTo_eq_ok_iff.1 read.2
        have header := IsHeader.mk hb read.1 declares (isBlankText_append.2 ⟨blank, ha⟩)
        rw [whole, dropStart?_eq_some started]
        simpa using header

/-- A header is read as one. -/
theorem IsHeader.headerParameters_eq {header : List Char} {params : List String} (h : IsHeader params header) :
    headerParameters header = .ok params := by
  cases h with
  | @mk before name list behind hb mayName declares ha =>
    have trimmed : IsTrimmed ("function".toList ++ name ++ '(' :: list ++ [')']) := by
      refine ⟨fun c hc => ?_, fun c hc => ?_⟩
      · obtain rfl : 'f' = c := by simpa using hc
        decide
      · obtain rfl : ')' = c := by
          rw [List.getLast?_concat] at hc
          exact Option.some.inj hc
        decide
    -- blanks around the header are cut off, those inside of it stay
    have middle : trim (before ++ "function".toList ++ name ++ '(' :: list ++ ')' :: behind) =
        "function".toList ++ (name ++ '(' :: (list ++ [')'])) := by
      have found := trimmed.trim_eq hb ha
      simpa using found
    have opens : (name ++ '(' :: (list ++ [')'])).head?.any (fun c => c = '(' || Unicode.isBlank c) = true := by
      cases name with
      | nil => rfl
      | cons c cs =>
        have blank : Unicode.isBlank c = true := by
          cases mayName with
          | nothing blank => exact isBlankText_iff.1 blank c List.mem_cons_self
          | name _ setOff => simpa using setOff
        simp [blank]
    have cut : cutAt? '(' (name ++ '(' :: (list ++ [')'])) = some (name, list ++ [')']) :=
      cutAt?_append_cons (mayName.not_mem (by decide) (by decide)) _
    have read : parametersUpTo (list ++ [')']) = .ok params :=
      parametersUpTo_eq_ok_iff.2 ⟨list, [], rfl, declares.not_mem (by decide) (by decide) (by decide), rfl, declares⟩
    rw [Module.headerParameters_eq, middle, dropStart?_append]
    dsimp only
    rw [opens, cut]
    dsimp only
    rw [read]
    cases mayName with
    | nothing blank => rw [blank]; rfl
    | name padded =>
      rw [padded.isBlankText_eq, validName_trim_eq_ok_iff.2 padded]
      rfl

theorem headerParameters_eq_ok_iff {header : List Char} {params : List String} :
    headerParameters header = .ok params ↔ IsHeader params header :=
  ⟨isHeader_of_headerParameters, IsHeader.headerParameters_eq⟩

/-! ### Functions -/

/-- Whether a text is a function with given parameters and a given body, and goes on behind it. -/
def IsFunction (params : List String) (body behind text : List Char) : Prop :=
  ∃ header, IsHeader params header ∧ text = header ++ '\x7b' :: (body ++ '\x7d' :: behind)

theorem IsFunction.cutBraces?_eq {params : List String} {body behind text : List Char}
    (h : IsFunction params body behind text) (last : '\x7d' ∉ behind) :
    ∃ header, IsHeader params header ∧ cutBraces? text = some (header, body) := by
  obtain ⟨header, isHeader, whole⟩ := h
  exact ⟨header, isHeader, cutBraces?_eq_some_iff.2 ⟨behind, whole, isHeader.not_mem, last⟩⟩

/-- What goes on behind a function is what stands behind the last closing brace. -/
theorem IsFunction.cutAtLast?_eq {params : List String} {body behind text : List Char}
    (h : IsFunction params body behind text) (last : '\x7d' ∉ behind) :
    ∃ front, cutAtLast? '\x7d' text = some (front, behind) := by
  obtain ⟨header, -, rfl⟩ := h
  refine ⟨header ++ '\x7b' :: body, cutAtLast?_eq_some_iff.2 ⟨?_, last⟩⟩
  simp

theorem brace_not_mem_of_isBlankText {cs : List Char} (blank : isBlankText cs = true) : '\x7d' ∉ cs :=
  not_mem_of_isBlankText blank (by decide)

namespace Factory

/-- A text is taken apart iff it is a function behind which no brace closes. -/
theorem ofFunctionText_eq_ok_iff {text : String} {f : Factory} : ofFunctionText text = .ok f ↔
    f.text = text ∧ ∃ behind, '\x7d' ∉ behind ∧ IsFunction f.params f.body.toList behind text.toList := by
  rw [ofFunctionText]
  cases cut : cutBraces? text.toList with
  | none =>
    refine iff_of_false (fun h => by cases h) ?_
    rintro ⟨-, behind, last, function⟩
    obtain ⟨header, -, found⟩ := function.cutBraces?_eq last
    exact Option.some_ne_none _ (found.symm.trans cut)
  | some parts =>
    obtain ⟨header, body⟩ := parts
    dsimp only
    constructor
    · intro h
      cases read : headerParameters header with
      | error e =>
        rw [read] at h
        cases h
      | ok params =>
        rw [read] at h
        cases h
        obtain ⟨behind, whole, -, last⟩ := cutBraces?_eq_some_iff.1 cut
        refine ⟨rfl, behind, last, header, headerParameters_eq_ok_iff.1 read, ?_⟩
        rwa [String.toList_ofList]
    · rintro ⟨rfl, behind, last, function⟩
      obtain ⟨header', isHeader, found⟩ := function.cutBraces?_eq last
      obtain ⟨rfl, rfl⟩ := Prod.mk.inj (Option.some.inj (cut.symm.trans found))
      rw [headerParameters_eq_ok_iff.2 isHeader, String.ofList_toList]
      rfl

/-! ### Functions written around a body -/

/-- Names are written with a comma and a blank between them. -/
theorem declares_intercalate {names : List String} (valid : ∀ name ∈ names, IsName name) :
    Declares names (", ".toList.intercalate (names.map String.toList)) := by
  cases names with
  | nil => exact .none rfl
  | cons name names =>
    obtain ⟨first, later⟩ := List.forall_mem_cons.1 valid
    have moved (l : List Char) (ls : List (List Char)) :
        ", ".toList.intercalate (l :: ls) = [','].intercalate (l :: ls.map (' ' :: ·)) := by
      induction ls generalizing l with
      | nil => simp
      | cons l' ls ih =>
        rw [List.intercalate_cons_cons, ih, List.map_cons, List.intercalate_cons_cons, List.intercalate_cons_cons_left]
        simp
    rw [List.map_cons, moved]
    refine .some (List.cons_ne_nil _ _) (.cons ⟨first, [], [], rfl, rfl, by simp⟩ ?_)
    rw [List.map_map, List.forall₂_map_right_iff, List.forall₂_same]
    exact fun n hn => ⟨later n hn, [' '], [], rfl, rfl, by simp⟩

/-- The text around a body is read as a function with the body on lines of its own. -/
theorem ofFunctionText_around {params : List String} (valid : ∀ p ∈ params, IsName p) (body : String) :
    ofFunctionText (around params body) = .ok ⟨params, around params body, "\n" ++ body ++ "\n"⟩ := by
  have header : IsHeader params ([] ++ "function".toList ++ [] ++
      '(' :: ", ".toList.intercalate (params.map String.toList) ++ ')' :: []) :=
    .mk rfl (.nothing rfl) (declares_intercalate valid) rfl
  refine ofFunctionText_eq_ok_iff.2 ⟨rfl, [], List.not_mem_nil, _, header, ?_⟩
  simp only [around, String.toList_append, String.toList_intercalate]
  simp

theorem ofBody_of_valid {params : List String} (valid : ∀ p ∈ params, IsName p) (body : String) :
    ofBody params body = .ok ⟨params, around params body, body⟩ := by
  have named : ∀ ps : List String, (∀ p ∈ ps, IsName p) → ps.mapM (fun p => validName p.toList) = .ok ps := by
    intro ps hps
    induction ps with
    | nil => rfl
    | cons p ps ih =>
      obtain ⟨first, later⟩ := List.forall_mem_cons.1 hps
      have here : validName p.toList = .ok p := validName_eq_ok_iff.2 ⟨String.ofList_toList.symm, first⟩
      rw [List.mapM_cons, here, ih later]
      rfl
  rw [ofBody, named params valid]
  rfl

/-- A text is accepted iff it is a function that may go on with a text without a closing brace, and then the factory has
the names of the parameters in their order and the text between the braces. Every other text is refused. An accepted
text is a function with nothing but blanks behind it iff it goes on with nothing else. -/
theorem function_texts_accepted (text : String) :
    (∀ f, ofFunctionText text = .ok f ↔
      f.text = text ∧ ∃ behind, '\x7d' ∉ behind ∧ IsFunction f.params f.body.toList behind text.toList) ∧
    ((∃ fault, ofFunctionText text = .error fault) ↔
      ¬ ∃ params body behind, '\x7d' ∉ behind ∧ IsFunction params body behind text.toList) ∧
    ∀ params body behind, '\x7d' ∉ behind → IsFunction params body behind text.toList →
      ((∃ params' body' blanks, isBlankText blanks = true ∧ IsFunction params' body' blanks text.toList) ↔
        isBlankText behind = true) := by
  refine ⟨fun f => ofFunctionText_eq_ok_iff, ?_, ?_⟩
  · constructor
    · rintro ⟨fault, refused⟩ ⟨params, body, behind, last, function⟩
      have accepted : ofFunctionText text = .ok ⟨params, text, String.ofList body⟩ :=
        ofFunctionText_eq_ok_iff.2 ⟨rfl, behind, last, by rwa [String.toList_ofList]⟩
      exact nomatch accepted.symm.trans refused
    · intro none
      cases read : ofFunctionText text with
      | error fault => exact ⟨fault, rfl⟩
      | ok f =>
        obtain ⟨-, behind, last, function⟩ := ofFunctionText_eq_ok_iff.1 read
        exact absurd ⟨f.params, f.body.toList, behind, last, function⟩ none
  · intro params body behind last function
    constructor
    · rintro ⟨params', body', blanks, blank, function'⟩
      obtain ⟨front, cut⟩ := function.cutAtLast?_eq last
      obtain ⟨front', cut'⟩ := function'.cutAtLast?_eq (brace_not_mem_of_isBlankText blank)
      obtain ⟨-, rfl⟩ := Prod.mk.inj (Option.some.inj (cut.symm.trans cut'))
      exact blank
    · exact fun blank => ⟨params, body, behind, blank, function⟩

/-! ### Functions for examples -/

namespace Spread

/-- A function with a name, with blanks wherever they may stand, and with braces in its body. -/
def text : String := " function  load ( exports ,require,\n module )\t\x7b \x7d\x7b \x7d\n"

def factory : Factory := ⟨["exports", "require", "module"], text, " \x7d\x7b "⟩

end Spread

/-- It is so for a function with blanks and braces in it. -/
theorem function_texts_accepted_spread :
    ofFunctionText Spread.text = .ok Spread.factory ∧
      ∃ behind, '\x7d' ∉ behind ∧ IsFunction ["exports", "require", "module"] " \x7d\x7b ".toList behind Spread.text.toList ∧
        ((∃ params' body' blanks, isBlankText blanks = true ∧ IsFunction params' body' blanks Spread.text.toList) ↔
          isBlankText behind = true) := by
  have accepted : ofFunctionText Spread.text = .ok Spread.factory := by decide +kernel
  obtain ⟨reads, -, exact_⟩ := function_texts_accepted Spread.text
  obtain ⟨-, behind, last, function⟩ := (reads Spread.factory).1 accepted
  exact ⟨accepted, behind, last, function, exact_ _ _ behind last function⟩

/-- A function that goes on with a word is accepted, though it is no function with blanks behind it. -/
theorem text_behind_accepted :
    ofFunctionText "function()\x7b\x7d x" = .ok ⟨[], "function()\x7b\x7d x", ""⟩ ∧
      ¬ ∃ params body blanks, isBlankText blanks = true ∧ IsFunction params body blanks "function()\x7b\x7d x".toList := by
  refine ⟨by decide +kernel, ?_⟩
  rintro ⟨params, body, blanks, blank, function⟩
  obtain ⟨front, cut⟩ := function.cutAtLast?_eq (brace_not_mem_of_isBlankText blank)
  have behind : cutAtLast? '\x7d' "function()\x7b\x7d x".toList = some ("function()\x7b".toList, " x".toList) := by
    decide +kernel
  obtain ⟨-, rfl⟩ := Prod.mk.inj (Option.some.inj (behind.symm.trans cut))
  revert blank
  decide

end Factory

end Module

end ScriptCoverage
