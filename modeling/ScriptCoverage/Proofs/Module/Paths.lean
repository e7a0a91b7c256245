import ScriptCoverage.Machine.Evaluate
import ScriptCoverage.Machine.Initial
import ScriptCoverage.Proofs.Text.Cutting

/-!
Paths as walks over segments. A walk from a place adds names and takes names away, so the place where it ends is written
as a path that leads there, and one walk behind another one is the walk along both paths. Main statement:
`relative_paths_compose` — it is so, and a module that a relative path names from a directory is the one that the path
which the directory and it make names from the top.
-/

namespace ScriptCoverage.Module

open Text

/-- A segment that names nothing by itself: it stands for where one is, or for the place above. -/
def IsDots (s : List Char) : Prop := s = ['.'] ∨ s = ['.', '.']

instance (s : List Char) : Decidable (IsDots s) := inferInstanceAs (Decidable (_ ∨ _))

/-- The segments of a path. The empty path has none. -/
def segments (path : List Char) : List (List Char) := if path = [] then [] else splitAt '/' path

/-- Where the segments of a path lead from a place. -/
def walk (place : List (List Char)) (path : List Char) : List (List Char) := (splitAt '/' path).foldl stepSegment place

theorem normalize_eq (dir path : List Char) : normalize dir path = placeText (walk (placeOf dir) path) := rfl

variable {dir path s : List Char} {place : List (List Char)}

theorem mem_placeOf : s ∈ placeOf dir ↔ s ∈ segments dir ∧ s ≠ [] := by
  rw [placeOf, List.mem_reverse, List.mem_filter, segments]
  split
  · next empty =>
    subst empty
    simp [splitAt]
  · simp

/-! ### Walks -/

theorem walk_append_cons (place : List (List Char)) (p q : List Char) :
    walk place (p ++ '/' :: q) = walk (walk place p) q := by
  rw [walk, splitAt_append_cons, List.foldl_append, walk, walk]

/-- A step leads to nothing new but the segment, and only if that is a name. -/
theorem mem_stepSegment {t : List Char} (h : s ∈ stepSegment place t) : s ∈ place ∨ s = t ∧ s ≠ [] ∧ ¬ IsDots s := by
  unfold stepSegment at h
  split at h
  · exact .inl h
  · next here =>
    split at h
    · exact .inl (List.mem_of_mem_drop h)
    · next up =>
      rcases List.mem_cons.1 h with rfl | before
      · have name : s ≠ [] ∧ s ≠ ['.'] := by simpa using here
        exact .inr ⟨rfl, name.1, not_or.2 ⟨name.2, up⟩⟩
      · exact .inl before

theorem mem_foldl_stepSegment {ss : List (List Char)} (h : s ∈ ss.foldl stepSegment place) :
    s ∈ place ∨ s ∈ ss ∧ s ≠ [] ∧ ¬ IsDots s := by
  induction ss generalizing place with
  | nil => exact .inl h
  | cons t ss ih =>
    rcases ih h with before | ⟨later, name⟩
    · rcases mem_stepSegment before with before | ⟨rfl, name⟩
      · exact .inl before
      · exact .inr ⟨List.mem_cons_self, name⟩
    · exact .inr ⟨List.mem_cons_of_mem _ later, name⟩

/-- What can be written down as a path: segments that are not empty, without separators in them. -/
def IsPlace (place : List (List Char)) : Prop := ∀ s ∈ place, s ≠ [] ∧ '/' ∉ s

theorem isPlace_placeOf (dir : List Char) : IsPlace (placeOf dir) := by
  intro s hs
  rw [placeOf, List.mem_reverse, List.mem_filter] at hs
  exact ⟨by simpa using hs.2, not_mem_of_mem_splitAt hs.1⟩

theorem IsPlace.walk (h : IsPlace place) (path : List Char) : IsPlace (walk place path) := by
  intro s hs
  rcases mem_foldl_stepSegment hs with before | ⟨segment, some, -⟩
  · exact h s before
  · exact ⟨some, not_mem_of_mem_splitAt segment⟩

theorem intercalate_ne_nil {ss : List (List Char)} (h : IsPlace ss) (some : ss ≠ []) : ['/'].intercalate ss ≠ [] := by
  obtain ⟨s, ss, rfl⟩ := List.exists_cons_of_ne_nil some
  intro empty
  cases ss with
  | nil => exact (h s List.mem_cons_self).1 (List.intercalate_singleton.symm.trans empty)
  | cons t ss =>
    rw [List.intercalate_cons_cons] at empty
    simp at empty

/-- A place is read back from its path. -/
theorem segments_placeText (h : IsPlace place) : segments (placeText place) = place.reverse := by
  have reversed : IsPlace place.reverse := fun s hs => h s (List.mem_reverse.1 hs)
  by_cases none : place = []
  · subst none
    rfl
  · have some : place.reverse ≠ [] := mt List.reverse_eq_nil_iff.1 none
    rw [segments, placeText, if_neg (intercalate_ne_nil reversed some),
      splitAt_intercalate (fun s hs => (reversed s hs).2) some]

theorem placeOf_placeText (h : IsPlace place) : placeOf (placeText place) = place := by
  by_cases none : place = []
  · subst none
    rfl
  · have some : placeText place ≠ [] :=
      intercalate_ne_nil (fun s hs => h s (List.mem_reverse.1 hs)) (mt List.reverse_eq_nil_iff.1 none)
    have parts : splitAt '/' (placeText place) = place.reverse := by
      rw [← segments_placeText h, segments, if_neg some]
    have all : place.reverse.filter (!·.isEmpty) = place.reverse :=
      List.filter_eq_self.2 fun s hs => by simpa using (h s (List.mem_reverse.1 hs)).1
    rw [placeOf, parts, all, List.reverse_reverse]

/-! ### Normal paths -/

theorem normalize_normalize (d p q : List Char) : normalize (normalize d p) q = normalize d (p ++ '/' :: q) := by
  rw [normalize_eq, normalize_eq, normalize_eq, placeOf_placeText ((isPlace_placeOf d).walk p), walk_append_cons]

theorem segments_normalize (dir path : List Char) :
    segments (normalize dir path) = (walk (placeOf dir) path).reverse :=
  segments_placeText ((isPlace_placeOf dir).walk path)

theorem nil_not_mem_segments_normalize (dir path : List Char) : [] ∉ segments (normalize dir path) := by
  rw [segments_normalize, List.mem_reverse]
  exact fun empty => ((isPlace_placeOf dir).walk path [] empty).1 rfl

theorem not_isDots_of_mem_segments_normalize (named : ∀ s ∈ segments dir, ¬ IsDots s) (path : List Char) :
    ∀ s ∈ segments (normalize dir path), ¬ IsDots s := by
  intro s hs
  rw [segments_normalize, List.mem_reverse] at hs
  rcases mem_foldl_stepSegment hs with before | ⟨-, -, name⟩
  · exact named s (mem_placeOf.1 before).1
  · exact name

/-! ### Modules that paths name -/

/-- A relative path starts with dots. -/
theorem exists_isDots_of_isRelative (h : isRelative path = true) : ∃ s ∈ segments path, IsDots s := by
  rw [isRelative, Bool.or_eq_true, List.isPrefixOf_iff_prefix, List.isPrefixOf_iff_prefix] at h
  rcases h with ⟨rest, rfl⟩ | ⟨rest, rfl⟩
  · exact ⟨['.'], by simp [segments, splitAt], .inl rfl⟩
  · exact ⟨['.', '.'], by simp [segments, splitAt], .inr rfl⟩

theorem basePath_of_isRelative {key : String} {path : String} (h : isRelative path.toList = true) :
    basePath (some key) path = String.ofList (normalize (directoryOf key.toList) path.toList) := by
  rw [basePath, if_pos h]
  rfl

/-- From the top a path that starts with a name leads to itself. -/
theorem basePath_none {base : List Char} (some : [] ∉ segments base) (named : ∀ s ∈ segments base, ¬ IsDots s) :
    basePath none (String.ofList base) = String.ofList base := by
  have notRelative : ¬ isRelative base = true := fun h => by
    obtain ⟨s, hs, dots⟩ := exists_isDots_of_isRelative h
    exact named s hs dots
  have whole : dropStart? ['/'] base = none := by
    cases base with
    | nil => rfl
    | cons c cs =>
      refine if_neg fun slash => some ?_
      subst slash
      rw [segments, if_neg (List.cons_ne_nil _ _), splitAt_cons_self]
      exact List.mem_cons_self
  rw [basePath, String.toList_ofList, if_neg notRelative, whole]
  rfl

end ScriptCoverage.Module

namespace ScriptCoverage.Machine

open ScriptCoverage.Module

variable {σ : Type}

theorem Run.resolve_apply (origin : Option String) (path : String) (m : Machine σ) :
    Run.resolve origin path m =
      match (candidates (basePath origin path)).find? m.registry.contains with
      | some key => .ok key m
      | none => .error (.failed (.moduleNotFound path (origin.getD Evaluator.rootName))) m := by
  change (match (candidates (basePath origin path)).find? m.registry.contains with
    | some key => pure key
    | none => Run.fail _ : Run σ String) m = _
  cases (candidates (basePath origin path)).find? m.registry.contains with
  | some key => rfl
  | none => rfl

/-- A search for a module ends with the first of its candidates that is registered. -/
theorem Run.resolve_eq_ok_iff {origin : Option String} {path key : String} {m : Machine σ} :
    Run.resolve origin path m = .ok key m ↔ m.registry.contains key ∧ ∃ before behind,
      candidates (basePath origin path) = before ++ key :: behind ∧ ∀ k ∈ before, ¬ m.registry.contains k := by
  have first : (candidates (basePath origin path)).find? m.registry.contains = some key ↔ _ :=
    List.find?_eq_some_iff_append
  simp only [Bool.not_eq_true'] at first
  simp only [Bool.not_eq_true]
  rw [← first, Run.resolve_apply]
  split
  · next found => rw [found, EStateM.Result.ok.injEq, Option.some_inj, and_iff_left rfl]
  · next absent =>
    rw [absent]
    exact iff_of_false nofun nofun

/-- One path behind another one leads where the two lead as one path. What a path leads to has no empty segments, and
none of dots unless the directory has some. A module in a directory without dots finds by a relative path what is found
from the top by the path to where it leads: the first registered one of its candidates. -/
theorem relative_paths_compose (d p q : List Char) (m : Machine σ) (key path : String) :
    normalize (normalize d p) q = normalize d (p ++ '/' :: q) ∧
    [] ∉ segments (normalize d p) ∧
    ((∀ s ∈ segments d, ¬ IsDots s) → ∀ s ∈ segments (normalize d p), ¬ IsDots s) ∧
    (isRelative path.toList = true → (∀ s ∈ segments (directoryOf key.toList), ¬ IsDots s) →
      let base := String.ofList (normalize (directoryOf key.toList) path.toList)
      ∀ found,
        (Run.resolve (some key) path m = .ok found m ↔ Run.resolve none base m = .ok found m) ∧
        (Run.resolve (some key) path m = .ok found m ↔ m.registry.contains found ∧ ∃ before behind,
          [base, base ++ ".js", base ++ ".json", base ++ "/index.js", base ++ "/index.json"] = before ++ found :: behind ∧
            ∀ k ∈ before, ¬ m.registry.contains k)) := by
  refine ⟨normalize_normalize d p q, nil_not_mem_segments_normalize d p,
    fun named => not_isDots_of_mem_segments_normalize named p, fun relative named => ?_⟩
  intro base found
  have below : basePath (some key) path = base := basePath_of_isRelative relative
  have top : basePath none base = base :=
    basePath_none (nil_not_mem_segments_normalize _ _) (not_isDots_of_mem_segments_normalize named _)
  refine ⟨?_, ?_⟩
  · rw [Run.resolve_eq_ok_iff, Run.resolve_eq_ok_iff, below, top]
  · rw [Run.resolve_eq_ok_iff, below]
    rfl

/-- A machine with one module in a directory. -/
def oneBelow : Machine Unit := (Machine.bare ()).register "math/mul.js" ⟨[], "function()\x7b\x7d", ""⟩

/-- It is so for a path that leads to that module from another directory. -/
theorem relative_paths_compose_above :
    (∀ s ∈ segments "math/lib".toList, ¬ IsDots s) ∧
    normalize (normalize "math/lib".toList "./x/..".toList) "../mul".toList = "math/mul".toList ∧
    isRelative "../mul".toList = true ∧ (∀ s ∈ segments (directoryOf "math/lib/index.js".toList), ¬ IsDots s) ∧
    Run.resolve (some "math/lib/index.js") "../mul" oneBelow = .ok "math/mul.js" oneBelow := by
  have named : ∀ s ∈ segments "math/lib".toList, ¬ IsDots s := by decide +kernel
  have relative : isRelative "../mul".toList = true := by decide +kernel
  have directory : ∀ s ∈ segments (directoryOf "math/lib/index.js".toList), ¬ IsDots s := by decide +kernel
  obtain ⟨composed, -, -, resolved⟩ :=
    relative_paths_compose "math/lib".toList "./x/..".toList "../mul".toList oneBelow "math/lib/index.js" "../mul"
  have base : String.ofList (normalize (directoryOf "math/lib/index.js".toList) "../mul".toList) = "math/mul" := by
    decide +kernel
  refine ⟨named, composed.trans (by decide +kernel), relative, directory, (resolved relative directory "math/mul.js").2.2 ?_⟩
  rw [base]
  exact ⟨by decide +kernel, ["math/mul"], _, rfl, by decide +kernel⟩

end ScriptCoverage.Machine
