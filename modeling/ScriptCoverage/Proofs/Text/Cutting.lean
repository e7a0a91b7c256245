import ScriptCoverage.Text.Cut
import Mathlib.Data.List.TakeWhile

/-!
Cuts of a text. A text is cut at the first or at the last place of a character, and there is one such cut only; the parts
between all places of a character, put together again, are the text; and `trim` finds what stands between blanks.
-/

namespace ScriptCoverage.Text

/-! ### Cutting at one place -/

section

variable {x : Char} {cs before behind : List Char}

theorem cutAt?_append_cons {x : Char} {cs : List Char} (h : x ∉ cs) (rest : List Char) :
    cutAt? x (cs ++ x :: rest) = some (cs, rest) := by
  induction cs with
  | nil => exact if_pos rfl
  | cons c cs ih =>
    obtain ⟨hc, hcs⟩ : ¬ x = c ∧ x ∉ cs := by simpa using h
    rw [List.cons_append, cutAt?, if_neg (Ne.symm hc), ih hcs]
    rfl

/-- A text is cut at the first place of a character. -/
theorem cutAt?_eq_some_iff : cutAt? x cs = some (before, behind) ↔ cs = before ++ x :: behind ∧ x ∉ before := by
  constructor
  · intro h
    induction cs generalizing before with
    | nil => cases h
    | cons c cs ih =>
      rw [cutAt?] at h
      split at h
      · next here =>
        cases h
        exact ⟨by rw [here]; rfl, List.not_mem_nil⟩
      · next other =>
        obtain ⟨⟨a, b⟩, found, same⟩ := Option.map_eq_some_iff.1 h
        cases same
        obtain ⟨rfl, first⟩ := ih found
        exact ⟨rfl, List.not_mem_cons_of_ne_of_not_mem (Ne.symm other) first⟩
  · rintro ⟨rfl, first⟩
    exact cutAt?_append_cons first behind

theorem cutAtLast?_append_cons (h : x ∉ behind) (before : List Char) :
    cutAtLast? x (before ++ x :: behind) = some (before, behind) := by
  have first : cutAt? x (before ++ x :: behind).reverse = some (behind.reverse, before.reverse) := by
    rw [List.reverse_append, List.reverse_cons, List.append_assoc]
    exact cutAt?_append_cons (by rwa [List.mem_reverse]) _
  rw [cutAtLast?, first]
  simp

theorem exists_last_of_mem {x : Char} {cs : List Char} (h : x ∈ cs) :
    ∃ before behind, cs = before ++ x :: behind ∧ x ∉ behind := by
  obtain ⟨a, b, reversed, last⟩ := List.eq_append_cons_of_mem (List.mem_reverse.2 h)
  refine ⟨b.reverse, a.reverse, ?_, by rwa [List.mem_reverse]⟩
  rw [← List.reverse_reverse cs, reversed]
  simp

/-- A text is cut from the end at the last place of a character. -/
theorem cutAtLast?_eq_some_iff : cutAtLast? x cs = some (before, behind) ↔ cs = before ++ x :: behind ∧ x ∉ behind := by
  constructor
  · intro h
    obtain ⟨⟨a, b⟩, found, same⟩ := Option.map_eq_some_iff.1 h
    cases same
    obtain ⟨whole, last⟩ := cutAt?_eq_some_iff.1 found
    refine ⟨?_, by rwa [List.mem_reverse]⟩
    rw [← List.reverse_reverse cs, whole]
    simp
  · rintro ⟨rfl, last⟩
    exact cutAtLast?_append_cons last before

end

theorem not_mem_intercalate {x : Char} {sep : List Char} (hsep : x ∉ sep) {ls : List (List Char)}
    (h : ∀ l ∈ ls, x ∉ l) : x ∉ sep.intercalate ls := by
  induction ls with
  | nil => exact List.not_mem_nil
  | cons l ls ih =>
    obtain ⟨hl, hls⟩ := List.forall_mem_cons.1 h
    cases ls with
    | nil =>
      rw [List.intercalate_singleton]
      exact hl
    | cons l' ls =>
      rw [List.intercalate_cons_cons]
      simp [hl, hsep, ih hls]

theorem subset_intercalate (sep : List Char) {l : List Char} {ls : List (List Char)} (h : l ∈ ls) :
    l ⊆ sep.intercalate ls := by
  induction ls with
  | nil => cases h
  | cons l' ls ih =>
    cases ls with
    | nil =>
      obtain rfl := List.mem_singleton.1 h
      rw [List.intercalate_singleton]
      exact List.Subset.refl l
    | cons l'' ls =>
      rw [List.intercalate_cons_cons]
      rcases List.mem_cons.1 h with rfl | later
      · exact List.subset_append_of_subset_left _ (List.subset_append_left ..)
      · exact List.subset_append_of_subset_right _ (ih later)

/-! ### Cutting at all places -/

/-- The parts between all separators are those that the library gives. -/
theorem splitAt_eq_splitOn (x : Char) (cs : List Char) : splitAt x cs = cs.splitOn x := by
  induction cs with
  | nil => rfl
  | cons c cs ih =>
    rw [splitAt, List.splitOn_cons_eq_if_modifyHead, ih]
    by_cases h : c = x
    · rw [if_pos h, if_pos (beq_iff_eq.2 h)]
    · rw [if_neg h, if_neg (mt beq_iff_eq.1 h)]
      obtain ⟨p, ps, parts⟩ := List.exists_cons_of_ne_nil (List.splitOn_ne_nil x cs)
      rw [parts]
      rfl

theorem splitAt_append_cons (x : Char) (cs ds : List Char) : splitAt x (cs ++ x :: ds) = splitAt x cs ++ splitAt x ds := by
  rw [splitAt_eq_splitOn, splitAt_eq_splitOn, splitAt_eq_splitOn, List.splitOn_append_cons_self]

theorem splitAt_cons_self (x : Char) (cs : List Char) : splitAt x (x :: cs) = [] :: splitAt x cs :=
  splitAt_append_cons x [] cs

theorem splitAt_intercalate {x : Char} {ps : List (List Char)} (free : ∀ p ∈ ps, x ∉ p) (some : ps ≠ []) :
    splitAt x ([x].intercalate ps) = ps := by
  rw [splitAt_eq_splitOn, List.splitOn_intercalate x free some]

theorem not_mem_of_mem_splitAt {x : Char} {cs p : List Char} (h : p ∈ splitAt x cs) : x ∉ p := by
  induction cs generalizing p with
  | nil =>
    rw [List.mem_singleton.1 h]
    exact List.not_mem_nil
  | cons c cs ih =>
    rw [splitAt] at h
    split at h
    · rcases List.mem_cons.1 h with rfl | later
      · exact List.not_mem_nil
      · exact ih later
    · next other =>
      split at h
      · next first parts split =>
        rcases List.mem_cons.1 h with rfl | later
        · have inner : x ∉ first := ih (split ▸ List.mem_cons_self)
          simp [inner, Ne.symm other]
        · exact ih (split ▸ List.mem_cons_of_mem _ later)
      · rw [List.mem_singleton.1 h]
        simp [Ne.symm other]

/-! ### Blanks around a text -/

theorem isBlankText_iff {cs : List Char} : isBlankText cs = true ↔ ∀ c ∈ cs, Unicode.isBlank c = true := List.all_eq_true

theorem isBlankText_of_subset {cs ds : List Char} (sub : cs ⊆ ds) (h : isBlankText ds = true) : isBlankText cs = true :=
  isBlankText_iff.2 fun c hc => isBlankText_iff.1 h c (sub hc)

theorem isBlankText_append {cs ds : List Char} :
    isBlankText (cs ++ ds) = true ↔ isBlankText cs = true ∧ isBlankText ds = true := by
  rw [isBlankText, List.all_append, Bool.and_eq_true, isBlankText, isBlankText]

theorem isBlankText_reverse (cs : List Char) : isBlankText cs.reverse = isBlankText cs := List.all_reverse

theorem trimLeft_append {blanks : List Char} (h : isBlankText blanks = true) (cs : List Char) :
    trimLeft (blanks ++ cs) = trimLeft cs :=
  List.dropWhile_append_of_pos (isBlankText_iff.1 h)

theorem trimRight_append {blanks : List Char} (h : isBlankText blanks = true) (cs : List Char) :
    trimRight (cs ++ blanks) = trimRight cs := by
  have reversed : isBlankText blanks.reverse = true := by rwa [isBlankText_reverse]
  rw [trimRight, List.reverse_append]
  exact congrArg List.reverse (trimLeft_append reversed cs.reverse)

/-- A text has blanks at its ends, and what `trim` leaves of it stands between them. -/
theorem exists_trim (cs : List Char) :
    ∃ before behind, isBlankText before = true ∧ isBlankText behind = true ∧ cs = before ++ trim cs ++ behind := by
  have taken (ds : List Char) : isBlankText (ds.takeWhile Unicode.isBlank) = true :=
    isBlankText_iff.2 fun c hc => List.mem_takeWhile_imp hc
  refine ⟨cs.takeWhile Unicode.isBlank, ((trimLeft cs).reverse.takeWhile Unicode.isBlank).reverse, taken cs, ?_, ?_⟩
  · rw [isBlankText_reverse]
    exact taken _
  · have right : trim cs ++ ((trimLeft cs).reverse.takeWhile Unicode.isBlank).reverse = trimLeft cs := by
      rw [trim, trimRight, ← List.reverse_append, List.takeWhile_append_dropWhile, List.reverse_reverse]
    rw [List.append_assoc, right, trimLeft, List.takeWhile_append_dropWhile]

/-- Whether a text neither starts nor ends with a blank. -/
def IsTrimmed (cs : List Char) : Prop :=
  (∀ c ∈ cs.head?, Unicode.isBlank c = false) ∧ ∀ c ∈ cs.getLast?, Unicode.isBlank c = false

theorem IsTrimmed.trimLeft_append {cs : List Char} (h : IsTrimmed cs) (some : cs ≠ []) (rest : List Char) :
    trimLeft (cs ++ rest) = cs ++ rest := by
  obtain ⟨c, cs, rfl⟩ := List.exists_cons_of_ne_nil some
  have first : ¬ Unicode.isBlank c = true := by simp [h.1 c rfl]
  rw [trimLeft, List.cons_append, List.dropWhile_cons_of_neg first]

theorem IsTrimmed.reverse {cs : List Char} (h : IsTrimmed cs) : IsTrimmed cs.reverse := by
  refine ⟨?_, ?_⟩
  · rw [List.head?_reverse]
    exact h.2
  · rw [List.getLast?_reverse]
    exact h.1

/-- What neither starts nor ends with a blank is found between blanks. -/
theorem IsTrimmed.trim_eq {cs before behind : List Char} (h : IsTrimmed cs) (hb : isBlankText before = true)
    (ha : isBlankText behind = true) : trim (before ++ cs ++ behind) = cs := by
  rw [trim, List.append_assoc, Text.trimLeft_append hb]
  by_cases none : cs = []
  · subst none
    have blank : trimLeft behind = [] := by
      rw [← List.append_nil behind, Text.trimLeft_append ha]
      rfl
    rw [List.nil_append, blank]
    rfl
  · have reversed := h.reverse.trimLeft_append (mt List.reverse_eq_nil_iff.1 none) []
    rw [h.trimLeft_append none, trimRight_append ha]
    rw [List.append_nil] at reversed
    exact (congrArg List.reverse reversed).trans (List.reverse_reverse cs)

end ScriptCoverage.Text
