import ScriptCoverage.Module.Factory
import ScriptCoverage.Proofs.Text.Cutting
import Mathlib.Data.List.Forall2
import Mathlib.Data.List.TakeWhile

/-!
What moving a text to the left does to it. Main statements: `flush_dedent` — up to the blanks at the starts of lines
the text is the same — `dedent_eq_self_iff` — it is the same altogether iff it is not indented —
`unindent_append_cons` — what stands between two characters that are no blanks loses the indentation behind each
of its line breaks, whatever it is a part of — and `source_moves_lines_left` — the text between the braces of a
function loses one indentation line by line, and has none behind that.
-/

namespace ScriptCoverage

namespace Text

/-! ### Texts by their lines -/

/-- A text is one line, or a line with its break in front of a text. -/
theorem induction_on_lines {P : List Char → Prop} (last : ∀ q, '\n' ∉ q → P q)
    (more : ∀ q rest, '\n' ∉ q → P rest → P (q ++ '\n' :: rest)) (cs : List Char) : P cs := by
  induction n : cs.length using Nat.strongRecOn generalizing cs with
  | ind k ih =>
    by_cases h : '\n' ∈ cs
    · obtain ⟨q, rest, rfl, hq⟩ := List.eq_append_cons_of_mem h
      refine more q rest hq (ih rest.length ?_ rest rfl)
      rw [← n, List.length_append, List.length_cons]
      omega
    · exact last cs h

theorem pieces_cons_of_ne {c : Char} (h : c ≠ '\n') (cs : List Char) :
    pieces (c :: cs) = ((pieces cs).head?.elim [c] (c :: ·)) :: (pieces cs).tail := by
  rw [pieces, if_neg h]
  cases pieces cs <;> rfl

theorem pieces_append_break {q : List Char} (h : '\n' ∉ q) (rest : List Char) :
    pieces (q ++ '\n' :: rest) = (q ++ ['\n']) :: pieces rest := by
  induction q with
  | nil => simp [pieces]
  | cons c q ih =>
    obtain ⟨hc, hq⟩ : ¬ '\n' = c ∧ '\n' ∉ q := by simpa using h
    rw [List.cons_append, pieces_cons_of_ne (Ne.symm hc), ih hq]
    rfl

theorem pieces_of_not_mem {q : List Char} (h : '\n' ∉ q) : pieces q = if q = [] then [] else [q] := by
  induction q with
  | nil => rfl
  | cons c q ih =>
    obtain ⟨hc, hq⟩ : ¬ '\n' = c ∧ '\n' ∉ q := by simpa using h
    rw [pieces_cons_of_ne (Ne.symm hc), ih hq]
    by_cases hn : q = [] <;> simp [hn]

theorem dropBreak_of_not_mem {q : List Char} (h : '\n' ∉ q) : dropBreak q = q := by
  rw [dropBreak]
  split
  · next r hr => exact absurd (List.mem_reverse.1 (hr ▸ List.mem_cons_self)) h
  · next r hr => exact absurd (List.mem_reverse.1 (hr ▸ List.mem_cons_self)) h
  · rfl

/-- A line without its break lacks blanks only. -/
theorem dropBreak_append (p : List Char) : ∃ blanks, isBlankText blanks = true ∧ dropBreak p ++ blanks = p := by
  rw [dropBreak]
  split
  · next r h => exact ⟨['\r', '\n'], by decide, by rw [← List.reverse_reverse p, h]; simp⟩
  · next r h => exact ⟨['\n'], by decide, by rw [← List.reverse_reverse p, h]; simp⟩
  · exact ⟨[], rfl, List.append_nil p⟩

theorem mem_of_mem_dropBreak_append {c : Char} {q : List Char} (h : c ∈ dropBreak (q ++ ['\n'])) : c ∈ q := by
  have reversed : (q ++ ['\n']).reverse = '\n' :: q.reverse := by simp
  rw [dropBreak, reversed] at h
  rw [← List.mem_reverse]
  split at h
  · next r hr =>
    rw [(List.cons.inj hr).2]
    exact List.mem_cons_of_mem _ (List.mem_reverse.1 h)
  · next r _ hr =>
    rw [(List.cons.inj hr).2]
    exact List.mem_reverse.1 h
  · next h₁ h₂ => exact absurd rfl (h₂ q.reverse)

theorem not_mem_of_mem_lines {l cs : List Char} (h : l ∈ lines cs) : '\n' ∉ l := by
  induction cs using induction_on_lines with
  | last q hq =>
    rw [lines, pieces_of_not_mem hq] at h
    split at h
    · cases h
    · obtain rfl : l = dropBreak q := by simpa using h
      rw [dropBreak_of_not_mem hq]
      exact hq
  | more q rest hq ih =>
    rw [lines, pieces_append_break hq, List.map_cons, List.mem_cons] at h
    rcases h with rfl | h
    · exact fun hn => hq (mem_of_mem_dropBreak_append hn)
    · exact ih h

/-! ### The first line that is not blank -/

/-- The first line of a text that is not blank, with its break. -/
def firstLine? (cs : List Char) : Option (List Char) := (pieces cs).find? (!isBlankText ·)

theorem isBlankText_dropBreak (p : List Char) : isBlankText (dropBreak p) = isBlankText p := by
  obtain ⟨blanks, blank, whole⟩ := dropBreak_append p
  rw [Bool.eq_iff_iff, ← and_iff_left (a := isBlankText (dropBreak p) = true) blank, ← isBlankText_append, whole]

/-- Behind the first character of a line that is not blank nothing counts for its indentation. -/
theorem takeWhile_append_of_not_blank {p : List Char} (h : isBlankText p = false) (rest : List Char) :
    (p ++ rest).takeWhile Unicode.isBlank = p.takeWhile Unicode.isBlank := by
  induction p with
  | nil => cases h
  | cons c p ih =>
    rw [List.cons_append, List.takeWhile_cons, List.takeWhile_cons]
    split
    · next blank =>
      rw [isBlankText, List.all_cons, blank, Bool.true_and] at h
      rw [ih h]
    · rfl

theorem takeWhile_trimLeft (cs : List Char) : (trimLeft cs).takeWhile Unicode.isBlank = [] := by
  induction cs with
  | nil => rfl
  | cons c cs ih =>
    rw [trimLeft, List.dropWhile_cons]
    split
    · exact ih
    · next other => exact List.takeWhile_cons_of_neg other

theorem firstLine?_append_break {q : List Char} (hq : '\n' ∉ q) (rest : List Char) :
    firstLine? (q ++ '\n' :: rest) = if isBlankText q then firstLine? rest else some (q ++ ['\n']) := by
  have same : isBlankText (q ++ ['\n']) = isBlankText q := by
    rw [Bool.eq_iff_iff, isBlankText_append, and_iff_left (by decide)]
  rw [firstLine?, pieces_append_break hq, List.find?_cons, same]
  cases isBlankText q <;> rfl

theorem firstLine?_of_not_mem {q : List Char} (hq : '\n' ∉ q) :
    firstLine? q = if isBlankText q then none else some q := by
  rw [firstLine?, pieces_of_not_mem hq]
  by_cases none : q = []
  · subst none
    rfl
  · rw [if_neg none, List.find?_cons]
    cases isBlankText q <;> rfl

end Text

namespace Module

open Text

/-! ### Indentations -/

theorem isBlank_of_mem_indentation {c : Char} {cs : List Char} (h : c ∈ indentation cs) : Unicode.isBlank c = true := by
  rw [indentation] at h
  split at h
  · exact List.mem_takeWhile_imp h
  · cases h

theorem break_not_mem_indentation (cs : List Char) : '\n' ∉ indentation cs := by
  rw [indentation]
  split
  · next l hl =>
    have line : l ∈ lines cs := List.mem_of_find?_eq_some hl
    exact fun hn => not_mem_of_mem_lines line (List.takeWhile_subset _ hn)
  · exact List.not_mem_nil

/-- A text with an indentation removed from its lines. -/
def unindent (indent cs : List Char) : List Char := (pieces cs).flatMap (removeIndent indent)

/-- The same for a text that starts inside a line. -/
def unindentRest (indent cs : List Char) : List Char :=
  (pieces cs).head?.getD [] ++ (pieces cs).tail.flatMap (removeIndent indent)

theorem unindent_nil (cs : List Char) : unindent [] cs = cs := by
  have same : removeIndent [] = id := by
    funext l
    simp [removeIndent, dropStart?]
  rw [unindent, same]
  simp [List.flatMap_id, pieces_flatten]

theorem dedent_eq (cs : List Char) : dedent cs = unindent (indentation cs) cs := by
  rw [dedent]
  split
  · next h => rw [List.isEmpty_iff.1 h, unindent_nil]
  · rfl

theorem dropStart?_eq_some {x cs rest : List Char} (h : dropStart? x cs = some rest) : cs = x ++ rest := by
  induction x generalizing cs with
  | nil => exact Option.some.inj h
  | cons c x ih =>
    cases cs with
    | nil => cases h
    | cons d cs =>
      rw [dropStart?] at h
      split at h
      · next hcd => rw [hcd, ih h, List.cons_append]
      · cases h

/-! ### Cutting a text into two -/

variable {indent : List Char}

/-- An indentation ends in front of a character that is not in it. -/
theorem dropStart?_append_cons {c : Char} (hc : c ∉ indent) (q rest : List Char) :
    dropStart? indent (q ++ c :: rest) = (dropStart? indent q).map (· ++ c :: rest) := by
  induction indent generalizing q with
  | nil => rfl
  | cons x xs ih =>
    obtain ⟨hx, hxs⟩ : ¬ c = x ∧ c ∉ xs := by simpa using hc
    cases q with
    | nil => simp [dropStart?, Ne.symm hx]
    | cons d q =>
      by_cases hd : x = d
      · simp [dropStart?, hd, ih hxs q]
      · simp [dropStart?, hd]

theorem removeIndent_append_cons {c : Char} (hc : c ∉ indent) (q rest : List Char) :
    removeIndent indent (q ++ c :: rest) = removeIndent indent q ++ c :: rest := by
  rw [removeIndent, removeIndent, dropStart?_append_cons hc]
  cases dropStart? indent q <;> rfl

theorem unindent_of_not_mem {q : List Char} (hq : '\n' ∉ q) : unindent indent q = removeIndent indent q := by
  rw [unindent, pieces_of_not_mem hq]
  split
  · next h =>
    subst h
    cases indent <;> rfl
  · simp

theorem unindent_append_break (plain : '\n' ∉ indent) {q : List Char} (hq : '\n' ∉ q) (rest : List Char) :
    unindent indent (q ++ '\n' :: rest) = removeIndent indent q ++ '\n' :: unindent indent rest := by
  rw [unindent, pieces_append_break hq, List.flatMap_cons, removeIndent_append_cons plain, List.append_assoc]
  rfl

theorem unindentRest_of_not_mem {q : List Char} (hq : '\n' ∉ q) : unindentRest indent q = q := by
  rw [unindentRest, pieces_of_not_mem hq]
  split
  · next h => simp [h]
  · simp

theorem unindentRest_append_break {q : List Char} (hq : '\n' ∉ q) (rest : List Char) :
    unindentRest indent (q ++ '\n' :: rest) = q ++ '\n' :: unindent indent rest := by
  rw [unindentRest, pieces_append_break hq]
  simp [unindent]

/-- A character that is not in the indentation cuts a text into two. What stands behind it starts inside a line. -/
theorem unindent_append_cons (plain : '\n' ∉ indent) {c : Char} (hc : c ∉ indent) (hn : c ≠ '\n') (cs rest : List Char) :
    unindent indent (cs ++ c :: rest) = unindent indent cs ++ c :: unindentRest indent rest ∧
      unindentRest indent (cs ++ c :: rest) = unindentRest indent cs ++ c :: unindentRest indent rest := by
  induction cs using induction_on_lines with
  | last q hq =>
    -- The line of the character ends where the first line of the rest does.
    have one {q' : List Char} (hq' : '\n' ∉ q') : '\n' ∉ q ++ c :: q' := by simp [hq, hq', Ne.symm hn]
    rw [unindent_of_not_mem hq, unindentRest_of_not_mem hq]
    by_cases h : '\n' ∈ rest
    · obtain ⟨q', rest', rfl, hq'⟩ := List.eq_append_cons_of_mem h
      have cut : q ++ c :: (q' ++ '\n' :: rest') = (q ++ c :: q') ++ '\n' :: rest' := by simp
      rw [cut, unindent_append_break plain (one hq'), unindentRest_append_break (one hq'),
        unindentRest_append_break hq', removeIndent_append_cons hc]
      exact ⟨by simp, by simp⟩
    · rw [unindent_of_not_mem (one h), unindentRest_of_not_mem (one h), unindentRest_of_not_mem h,
        removeIndent_append_cons hc]
      exact ⟨rfl, rfl⟩
  | more q rest' hq ih =>
    have cut : (q ++ '\n' :: rest') ++ c :: rest = q ++ '\n' :: (rest' ++ c :: rest) := by simp
    rw [cut, unindent_append_break plain hq, unindentRest_append_break hq, unindent_append_break plain hq,
      unindentRest_append_break hq, ih.1]
    exact ⟨by simp, by simp⟩

/-! ### What stays and what goes -/

/-- A text without blank lines and without the blanks at the starts of the other ones. -/
def flush (cs : List Char) : List Char := (pieces cs).flatMap trimLeft

theorem flush_append_break {q : List Char} (hq : '\n' ∉ q) (rest : List Char) :
    flush (q ++ '\n' :: rest) = trimLeft (q ++ ['\n']) ++ flush rest := by
  rw [flush, pieces_append_break hq, List.flatMap_cons]
  rfl

theorem flush_of_not_mem {q : List Char} (hq : '\n' ∉ q) : flush q = trimLeft q := by
  rw [flush, pieces_of_not_mem hq]
  split
  · next h =>
    subst h
    rfl
  · simp

theorem trimLeft_removeIndent (blank : ∀ c ∈ indent, Unicode.isBlank c = true) (l rest : List Char) :
    trimLeft (removeIndent indent l ++ rest) = trimLeft (l ++ rest) := by
  rw [removeIndent]
  cases h : dropStart? indent l with
  | none => rfl
  | some l' =>
    rw [dropStart?_eq_some h, List.append_assoc]
    exact (List.dropWhile_append_of_pos blank).symm

theorem not_mem_removeIndent {c : Char} {l : List Char} (h : c ∉ l) : c ∉ removeIndent indent l := by
  rw [removeIndent]
  cases hd : dropStart? indent l with
  | none => exact h
  | some l' =>
    rw [dropStart?_eq_some hd] at h
    exact fun hc => h (List.mem_append_right _ hc)

theorem flush_unindent (plain : '\n' ∉ indent) (blank : ∀ c ∈ indent, Unicode.isBlank c = true) (cs : List Char) :
    flush (unindent indent cs) = flush cs := by
  induction cs using induction_on_lines with
  | last q hq =>
    have trimmed := trimLeft_removeIndent blank q []
    rw [List.append_nil, List.append_nil] at trimmed
    rw [unindent_of_not_mem hq, flush_of_not_mem (not_mem_removeIndent hq), flush_of_not_mem hq, trimmed]
  | more q rest hq ih =>
    rw [unindent_append_break plain hq, flush_append_break (not_mem_removeIndent hq), flush_append_break hq, ih,
      trimLeft_removeIndent blank]

theorem flush_dedent (cs : List Char) : flush (dedent cs) = flush cs := by
  rw [dedent_eq]
  exact flush_unindent (break_not_mem_indentation cs) (fun _ => isBlank_of_mem_indentation) cs

/-! ### Lines that start with the indentation -/

theorem dropStart?_append (x rest : List Char) : dropStart? x (x ++ rest) = some rest := by
  induction x with
  | nil => rfl
  | cons c x ih => rw [List.cons_append, dropStart?, if_pos rfl, ih]

theorem removeIndent_append (l : List Char) : removeIndent indent (indent ++ l) = l := by
  rw [removeIndent, dropStart?_append]
  rfl

theorem removeIndent_of_not_starts {l : List Char} (h : ¬ indent <+: l) : removeIndent indent l = l := by
  rw [removeIndent]
  cases hd : dropStart? indent l with
  | none => rfl
  | some l' => exact absurd ⟨l', (dropStart?_eq_some hd).symm⟩ h

theorem length_removeIndent_le (indent l : List Char) : (removeIndent indent l).length ≤ l.length := by
  by_cases h : indent <+: l
  · obtain ⟨l', rfl⟩ := h
    rw [removeIndent_append, List.length_append]
    omega
  · rw [removeIndent_of_not_starts h]

theorem removeIndent_eq_self_iff {l : List Char} : removeIndent indent l = l ↔ indent = [] ∨ ¬ indent <+: l := by
  by_cases h : indent <+: l
  · obtain ⟨l', rfl⟩ := h
    rw [removeIndent_append]
    constructor
    · intro same
      have := congrArg List.length same
      rw [List.length_append] at this
      exact .inl (List.length_eq_zero_iff.1 (by omega))
    · rintro (rfl | not)
      · rfl
      · exact absurd (List.prefix_append ..) not
  · exact iff_of_true (removeIndent_of_not_starts h) (.inr h)

theorem length_flatMap_removeIndent_le (indent : List Char) (ps : List (List Char)) :
    (ps.flatMap (removeIndent indent)).length ≤ ps.flatten.length := by
  induction ps with
  | nil => exact le_rfl
  | cons p ps ih =>
    have := length_removeIndent_le indent p
    rw [List.flatMap_cons, List.flatten_cons, List.length_append, List.length_append]
    omega

/-- Lines stay together what they are only if each of them does, since none gets longer. -/
theorem flatMap_removeIndent_eq_flatten_iff {ps : List (List Char)} :
    ps.flatMap (removeIndent indent) = ps.flatten ↔ indent = [] ∨ ∀ p ∈ ps, ¬ indent <+: p := by
  induction ps with
  | nil => simp
  | cons p ps ih =>
    rw [List.flatMap_cons, List.flatten_cons]
    constructor
    · intro same
      have short := length_removeIndent_le indent p
      have shorter := length_flatMap_removeIndent_le indent ps
      have total := congrArg List.length same
      rw [List.length_append, List.length_append] at total
      obtain ⟨first, others⟩ := List.append_inj same (by omega)
      rcases removeIndent_eq_self_iff.1 first with none | not
      · exact .inl none
      · rcases ih.1 others with none | nots
        · exact .inl none
        · exact .inr (List.forall_mem_cons.2 ⟨not, nots⟩)
    · intro h
      have first : removeIndent indent p = p := removeIndent_eq_self_iff.2 (h.imp_right fun nots => nots p List.mem_cons_self)
      have others : ps.flatMap (removeIndent indent) = ps.flatten :=
        ih.2 (h.imp_right fun nots q hq => nots q (List.mem_cons_of_mem _ hq))
      rw [first, others]

theorem unindent_eq_self_iff {cs : List Char} :
    unindent indent cs = cs ↔ indent = [] ∨ ∀ p ∈ pieces cs, ¬ indent <+: p := by
  have whole := pieces_flatten cs
  rw [unindent, ← flatMap_removeIndent_eq_flatten_iff, whole]

/-- A text that starts inside a line stays what it is iff no line behind its first one starts with the
indentation. -/
theorem unindentRest_eq_self_iff {cs : List Char} :
    unindentRest indent cs = cs ↔ indent = [] ∨ ∀ p ∈ (pieces cs).tail, ¬ indent <+: p := by
  have whole := pieces_flatten cs
  rw [← flatMap_removeIndent_eq_flatten_iff, unindentRest]
  cases hp : pieces cs with
  | nil =>
    rw [hp] at whole
    simp [← whole]
  | cons p ps =>
    rw [hp] at whole
    rw [← whole]
    simp

theorem removeIndent_subset (l : List Char) : removeIndent indent l ⊆ l := by
  by_cases h : indent <+: l
  · obtain ⟨l', rfl⟩ := h
    rw [removeIndent_append]
    exact List.subset_append_right ..
  · rw [removeIndent_of_not_starts h]
    exact List.Subset.refl _

theorem unindentRest_subset {cs : List Char} : unindentRest indent cs ⊆ cs := by
  have whole := pieces_flatten cs
  intro c hc
  rw [unindentRest] at hc
  rw [← whole]
  cases hp : pieces cs with
  | nil => simp [hp] at hc
  | cons p ps =>
    rw [hp, List.mem_append] at hc
    rw [List.flatten_cons, List.mem_append]
    refine hc.imp id fun later => ?_
    obtain ⟨q, hq, hcq⟩ := List.mem_flatMap.1 later
    exact List.mem_flatten.2 ⟨q, hq, removeIndent_subset q hcq⟩

/-- If a text is indented then one of its lines shows it. -/
theorem exists_indented {cs : List Char} (h : indentation cs ≠ []) : ∃ p ∈ pieces cs, indentation cs <+: p := by
  cases hl : (lines cs).find? (!isBlankText ·) with
  | none => simp [indentation, hl] at h
  | some l =>
    obtain ⟨p, hp, rfl⟩ := List.mem_map.1 (List.mem_of_find?_eq_some hl)
    have indented : indentation cs = (dropBreak p).takeWhile Unicode.isBlank := by rw [indentation, hl]
    obtain ⟨blanks, -, whole⟩ := dropBreak_append p
    exact ⟨p, hp, indented ▸ (List.takeWhile_prefix _).trans ⟨blanks, whole⟩⟩

theorem dedent_eq_self_iff {cs : List Char} : dedent cs = cs ↔ indentation cs = [] := by
  rw [dedent_eq, unindent_eq_self_iff]
  constructor
  · rintro (none | nots)
    · exact none
    · by_contra indented
      obtain ⟨p, hp, starts⟩ := exists_indented indented
      exact nots p hp starts
  · exact .inl

/-! ### Behind the indentation -/

/-- The indentation is that of the first line that is not blank. -/
theorem indentation_eq (cs : List Char) :
    indentation cs = (firstLine? cs).elim [] (·.takeWhile Unicode.isBlank) := by
  have same : (fun l => !isBlankText l) ∘ dropBreak = fun l => !isBlankText l :=
    funext fun p => congrArg not (isBlankText_dropBreak p)
  rw [indentation, lines, List.find?_map, same, ← firstLine?]
  cases first : firstLine? cs with
  | none => rfl
  | some p =>
    obtain ⟨blanks, -, whole⟩ := dropBreak_append p
    have filled : isBlankText (dropBreak p) = false := by
      rw [isBlankText_dropBreak]
      simpa using List.find?_some first
    change (dropBreak p).takeWhile _ = p.takeWhile _
    rw [← takeWhile_append_of_not_blank filled blanks, whole]

theorem indentation_append_break {q : List Char} (hq : '\n' ∉ q) (rest : List Char) :
    indentation (q ++ '\n' :: rest) = if isBlankText q then indentation rest else q.takeWhile Unicode.isBlank := by
  rw [indentation_eq, indentation_eq, firstLine?_append_break hq]
  cases blank : isBlankText q with
  | true => rfl
  | false => exact takeWhile_append_of_not_blank blank ['\n']

theorem indentation_of_not_mem {q : List Char} (hq : '\n' ∉ q) :
    indentation q = if isBlankText q then [] else q.takeWhile Unicode.isBlank := by
  rw [indentation_eq, firstLine?_of_not_mem hq]
  cases isBlankText q <;> rfl

theorem removeIndent_takeWhile (l : List Char) : removeIndent (l.takeWhile Unicode.isBlank) l = trimLeft l := by
  have whole : l.takeWhile Unicode.isBlank ++ trimLeft l = l := List.takeWhile_append_dropWhile
  exact (congrArg (removeIndent _) whole.symm).trans (removeIndent_append _)

theorem isBlankText_trimLeft {l : List Char} (h : isBlankText l = false) : isBlankText (trimLeft l) = false := by
  have front : isBlankText (l.takeWhile Unicode.isBlank) = true := isBlankText_iff.2 fun c hc => List.mem_takeWhile_imp hc
  have whole : l.takeWhile Unicode.isBlank ++ trimLeft l = l := List.takeWhile_append_dropWhile
  rw [← Bool.not_eq_true, ← whole, isBlankText_append, and_iff_right front, Bool.not_eq_true] at h
  exact h

/-- What has been moved to the left is not indented. -/
theorem indentation_dedent (cs : List Char) : indentation (dedent cs) = [] := by
  rw [dedent_eq]
  induction cs using induction_on_lines with
  | last q hq =>
    rw [unindent_of_not_mem hq, indentation_of_not_mem hq, indentation_of_not_mem (not_mem_removeIndent hq)]
    cases blank : isBlankText q with
    | true => exact if_pos (isBlankText_of_subset (removeIndent_subset q) blank)
    | false =>
      rw [if_neg Bool.false_ne_true, removeIndent_takeWhile, takeWhile_trimLeft, ite_self]
  | more q rest hq ih =>
    have plain := break_not_mem_indentation (q ++ '\n' :: rest)
    rw [unindent_append_break plain hq, indentation_append_break (not_mem_removeIndent hq), indentation_append_break hq]
    cases blank : isBlankText q with
    | true =>
      -- The first line that is not blank is still to come.
      rw [if_pos (isBlankText_of_subset (removeIndent_subset q) blank)]
      exact ih
    | false =>
      rw [if_neg Bool.false_ne_true, removeIndent_takeWhile, isBlankText_trimLeft blank, if_neg Bool.false_ne_true,
        takeWhile_trimLeft]

theorem dedent_dedent (cs : List Char) : dedent (dedent cs) = dedent cs :=
  dedent_eq_self_iff.2 (indentation_dedent cs)

/-- A text is not indented iff its first line that is not blank starts with no blank. -/
theorem indentation_eq_nil_iff {cs : List Char} :
    indentation cs = [] ↔ ∀ l ∈ firstLine? cs, ∃ c rest, l = c :: rest ∧ Unicode.isBlank c = false := by
  rw [indentation_eq]
  cases first : firstLine? cs with
  | none => exact iff_of_true rfl nofun
  | some l =>
    have filled : isBlankText l = false := by simpa using List.find?_some first
    cases l with
    | nil => cases filled
    | cons c rest => simp [List.takeWhile_cons]

/-! ### Line by line -/

/-- Whether a line has come of another one by taking away an indentation: it is the same line or has lost just the
indentation, and it has lost something iff there was something to lose. -/
structure MovedBy (indent line moved : List Char) : Prop where
  kept_or_lost : moved = line ∨ line = indent ++ moved
  ne_iff : moved ≠ line ↔ indent ≠ [] ∧ indent <+: line

theorem movedBy_removeIndent (indent line : List Char) : MovedBy indent line (removeIndent indent line) where
  kept_or_lost := by
    by_cases starts : indent <+: line
    · obtain ⟨rest, rfl⟩ := starts
      exact .inr (by rw [removeIndent_append])
    · exact .inl (removeIndent_of_not_starts starts)
  ne_iff := by
    rw [Ne, removeIndent_eq_self_iff, not_or, not_not]

/-- No line is joined with another one. Only the last one may get lost, if it is the indentation alone. -/
theorem pieces_unindent (plain : '\n' ∉ indent) (cs : List Char) :
    pieces (unindent indent cs) = ((pieces cs).map (removeIndent indent)).filter (!·.isEmpty) := by
  induction cs using induction_on_lines with
  | last q hq =>
    rw [unindent_of_not_mem hq, pieces_of_not_mem hq, pieces_of_not_mem (not_mem_removeIndent hq)]
    by_cases none : q = []
    · subst none
      cases indent <;> rfl
    · cases moved : removeIndent indent q <;> simp [none, moved]
  | more q rest hq ih =>
    have first : removeIndent indent (q ++ ['\n']) = removeIndent indent q ++ ['\n'] := removeIndent_append_cons plain q []
    rw [unindent_append_break plain hq, pieces_append_break (not_mem_removeIndent hq), pieces_append_break hq, ih,
      List.map_cons, first, List.filter_cons_of_pos (by simp)]

/-- Characters of which none is in the indentation stay in their order. -/
theorem filter_unindent {p : Char → Bool} (none : ∀ c ∈ indent, p c = false) (cs : List Char) :
    (unindent indent cs).filter p = cs.filter p := by
  have line (l : List Char) : (removeIndent indent l).filter p = l.filter p := by
    rcases (movedBy_removeIndent indent l).kept_or_lost with kept | lost
    · rw [kept]
    · have gone : indent.filter p = [] := List.filter_eq_nil_iff.2 fun c hc => by simp [none c hc]
      calc (removeIndent indent l).filter p
        _ = (indent ++ removeIndent indent l).filter p := by rw [List.filter_append, gone, List.nil_append]
        _ = l.filter p := by rw [← lost]
  calc (unindent indent cs).filter p
    _ = (pieces cs).flatMap fun l => (removeIndent indent l).filter p := List.filter_flatMap ..
    _ = (pieces cs).flatMap fun l => l.filter p := by rw [funext line]
    _ = (pieces cs).flatten.filter p := by rw [List.filter_flatten, List.flatMap_def]
    _ = cs.filter p := by rw [pieces_flatten]

/-- The indentation is all blanks in front of the first line that is not blank; where all lines are blank there is none. -/
theorem indentation_spec (cs : List Char) :
    (∃ c rest, firstLine? cs = some (indentation cs ++ c :: rest) ∧ isBlankText (indentation cs) = true ∧
      Unicode.isBlank c = false) ∨ firstLine? cs = none ∧ indentation cs = [] := by
  rw [indentation_eq]
  cases first : firstLine? cs with
  | none => exact .inr ⟨rfl, rfl⟩
  | some l =>
    have filled : isBlankText l = false := by simpa using List.find?_some first
    have whole : l.takeWhile Unicode.isBlank ++ trimLeft l = l := List.takeWhile_append_dropWhile
    have start := takeWhile_trimLeft l
    cases rest : trimLeft l with
    | nil =>
      have none := isBlankText_trimLeft filled
      rw [rest] at none
      cases none
    | cons c rest' =>
      rw [rest] at start whole
      refine .inl ⟨c, rest', congrArg some whole.symm, isBlankText_iff.2 fun d hd => List.mem_takeWhile_imp hd, ?_⟩
      simpa [List.takeWhile_cons] using start

/-! ### Between braces -/

/-- A text is taken apart at its first opening and its last closing brace. -/
theorem cutBraces?_eq_some_iff {cs header body : List Char} : cutBraces? cs = some (header, body) ↔
    ∃ behind, cs = header ++ '\x7b' :: (body ++ '\x7d' :: behind) ∧ '\x7b' ∉ header ∧ '\x7d' ∉ behind := by
  rw [cutBraces?, Option.bind_eq_some_iff]
  constructor
  · rintro ⟨⟨before, rest⟩, opened, closed⟩
    obtain ⟨⟨inner, behind⟩, found, same⟩ := Option.map_eq_some_iff.1 closed
    cases same
    obtain ⟨rfl, first⟩ := cutAt?_eq_some_iff.1 opened
    obtain ⟨rfl, last⟩ := cutAtLast?_eq_some_iff.1 found
    exact ⟨behind, rfl, first, last⟩
  · rintro ⟨behind, rfl, first, last⟩
    refine ⟨_, cutAt?_append_cons first _, ?_⟩
    dsimp only
    rw [cutAtLast?_append_cons last]
    rfl

/-- Whether some brace opens and some brace behind it closes. -/
def HasBraces (cs : List Char) : Prop := ∃ before between behind, cs = before ++ '\x7b' :: (between ++ '\x7d' :: behind)

theorem HasBraces.exists_cut {cs : List Char} (h : HasBraces cs) : ∃ header body, cutBraces? cs = some (header, body) := by
  have opened : ∃ header rest, cs = header ++ '\x7b' :: rest ∧ '\x7b' ∉ header ∧ '\x7d' ∈ rest := by
    obtain ⟨before, between, behind, rfl⟩ := h
    by_cases earlier : '\x7b' ∈ before
    · obtain ⟨header, rest, rfl, first⟩ := List.eq_append_cons_of_mem earlier
      exact ⟨header, rest ++ '\x7b' :: (between ++ '\x7d' :: behind), by simp, first, by simp⟩
    · exact ⟨before, _, rfl, earlier, by simp⟩
  obtain ⟨header, rest, rfl, first, closed⟩ := opened
  obtain ⟨body, behind, rfl, last⟩ := exists_last_of_mem closed
  exact ⟨header, body, cutBraces?_eq_some_iff.2 ⟨behind, rfl, first, last⟩⟩

theorem functionSource_of_cut {text : String} {header body : List Char} (h : cutBraces? text.toList = some (header, body)) :
    functionSource text = String.ofList (dedent body) := by
  rw [functionSource, h]

/-- Text that stands between braces alone. -/
theorem functionSource_braced (body : List Char) :
    functionSource ("\x7b" ++ String.ofList body ++ "\x7d") = String.ofList (dedent body) := by
  have cut : cutBraces? ("\x7b" ++ String.ofList body ++ "\x7d").toList = some ([], body) :=
    cutBraces?_eq_some_iff.2 ⟨[], by simp [String.toList_append], List.not_mem_nil, List.not_mem_nil⟩
  exact functionSource_of_cut cut

/-- Moving the text between the braces to the left goes line by line. One indentation, all blanks in front of the first
line that is not blank, is taken away from the lines that start with it, and the other ones stay what they are. So there
are as many line breaks as before, and the characters that are no blanks stand in the same order; the first line that
is not blank starts with one of them, and to move the text again changes nothing. -/
theorem source_moves_lines_left {text : String} (braces : HasBraces text.toList) :
    ∃ header body behind indent moved,
      (text.toList = header ++ '\x7b' :: (body ++ '\x7d' :: behind) ∧ '\x7b' ∉ header ∧ '\x7d' ∉ behind) ∧
      ((∃ c rest, firstLine? body = some (indent ++ c :: rest) ∧ isBlankText indent = true ∧ Unicode.isBlank c = false) ∨
        firstLine? body = none ∧ indent = []) ∧
      (List.Forall₂ (MovedBy indent) (pieces body) moved ∧ (functionSource text).toList = moved.flatten ∧
        pieces (functionSource text).toList = moved.filter (!·.isEmpty)) ∧
      (functionSource text).toList.count '\n' = body.count '\n' ∧
      (functionSource text).toList.filter (!Unicode.isBlank ·) = body.filter (!Unicode.isBlank ·) ∧
      (∀ l ∈ firstLine? (functionSource text).toList, ∃ c rest, l = c :: rest ∧ Unicode.isBlank c = false) ∧
      functionSource ("\x7b" ++ functionSource text ++ "\x7d") = functionSource text := by
  obtain ⟨header, body, cut⟩ := braces.exists_cut
  obtain ⟨behind, whole, first, last⟩ := cutBraces?_eq_some_iff.1 cut
  have plain : '\n' ∉ indentation body := break_not_mem_indentation body
  have blank {c : Char} (hc : c ∈ indentation body) : Unicode.isBlank c = true := isBlank_of_mem_indentation hc
  rw [functionSource_of_cut cut, functionSource_braced, String.toList_ofList, dedent_dedent]
  refine ⟨header, body, behind, indentation body, (pieces body).map (removeIndent (indentation body)),
    ⟨whole, first, last⟩, indentation_spec body, ⟨?_, ?_, ?_⟩, ?_, ?_, ?_, rfl⟩
  · exact List.forall₂_map_right_iff.2 (List.forall₂_same.2 fun l _ => movedBy_removeIndent _ l)
  · rw [dedent_eq, unindent, List.flatMap_def]
  · rw [dedent_eq, pieces_unindent plain]
  · have none : ∀ c ∈ indentation body, (c == '\n') = false := fun c hc => beq_false_of_ne fun same => plain (same ▸ hc)
    rw [dedent_eq, List.count_eq_length_filter, List.count_eq_length_filter, filter_unindent none]
  · rw [dedent_eq, filter_unindent fun c hc => by rw [blank hc]; rfl]
  · exact indentation_eq_nil_iff.1 (indentation_dedent body)

/-! ### A text for an example -/

namespace Mixed

/-- A function with lines of several indentations and of both kinds of breaks. -/
def text : String := "function()\x7b\r\n    a();\r\n  b();\r\n      c();\n    \n\x7d"

end Mixed

/-- It is so for a function with lines that do not start with the indentation, and with one that is nothing else. -/
theorem source_moves_lines_left_mixed :
    HasBraces Mixed.text.toList ∧ functionSource Mixed.text = "\r\na();\r\n  b();\r\n  c();\n\n" ∧
      (∀ l ∈ firstLine? (functionSource Mixed.text).toList, ∃ c rest, l = c :: rest ∧ Unicode.isBlank c = false) ∧
      functionSource ("\x7b" ++ functionSource Mixed.text ++ "\x7d") = functionSource Mixed.text := by
  have braces : HasBraces Mixed.text.toList :=
    ⟨"function()".toList, "\r\n    a();\r\n  b();\r\n      c();\n    \n".toList, [], by decide +kernel⟩
  obtain ⟨-, -, -, -, -, -, -, -, -, -, flush, again⟩ := source_moves_lines_left braces
  exact ⟨braces, by decide +kernel, flush, again⟩

end Module

end ScriptCoverage
