import ScriptCoverage.Machine.Initial
import ScriptCoverage.Proofs.Machine.Depth
import ScriptCoverage.Proofs.Program.Declarations

/-!
The names that the own code of a call changes. The frame of a call is its `home`, and the frames that its code opens
inside of it are newer. A confined writer stops where a name is about to be changed anywhere else than in these frames,
or in the objects of those that have one; `Evaluator.ownCode` runs the code of a call with such a writer, and the
functions that it calls as they are. Main statement: `declared_names_stay_inside` — for a name that the function
declares this makes no difference.
-/

namespace ScriptCoverage.Machine

variable {σ α : Type}

/-! ### Writers that are confined -/

/-- The frames of a scope that belong to a call: those opened since, and its own. -/
def ownFrames (home : FrameRef) (scope : Scope) : Scope := scope.takeWhile (home.index < ·.index) ++ [home]

/-- Whether a name was found in one of some frames, or in the object of one. -/
def isFoundIn (m : Machine σ) (frames : Scope) : Option Resolved → Bool
  | some (.binding owner) => owner.head?.any frames.contains
  | some (.property v) => frames.any fun r => (m.frame r).kind = .object v
  | none => false

/-- A writer that stops where it would change a name elsewhere than in the frames that belong to a call. -/
def Writer.confined (home : FrameRef) (x : String) (w : Writer σ) : Writer σ where
  assign scope name v := do
    Run.watch fun m => name = x && !m.isFoundIn (ownFrames home scope) (m.resolve? scope name)
    w.assign scope name v
  declareVariable scope name := do
    Run.watch fun m => name = x && !(ownFrames home scope).contains (m.variableFrame scope)
    w.declareVariable scope name
  declare scope name v := do
    Run.watch fun _ => name = x && !scope.head?.any (ownFrames home scope).contains
    w.declare scope name v

/-- The evaluator for the own code of a call, whose changes of a name are confined. Other functions run as they are. -/
def Evaluator.ownCode (host : Host σ) (home : FrameRef) (x : String) : Nat → Evaluator σ
  | 0 => ofFuel host 0
  | n + 1 =>
    let ev := ownCode host home x n
    { fuel := n + 1
      host
      expr := fun scope e => ev.exprBy (.confined home x (.plain ev.call)) scope e
      stmt := fun scope labels s => ev.stmtBy (.confined home x (.plain ev.call)) scope labels s
      call := (ofFuel host (n + 1)).call }

theorem le_of_mem_ownFrames {home r : FrameRef} {scope : Scope} (own : r ∈ ownFrames home scope) :
    home.index ≤ r.index := by
  rcases List.mem_append.1 own with opened | self
  · exact Nat.le_of_lt (of_decide_eq_true (List.all_eq_true.1 List.all_takeWhile r opened))
  · exact Nat.le_of_eq (congrArg FrameRef.index (List.mem_singleton.1 self).symm)

/-- What a confined writer does that gives the name a value: it stops, or binds the name in a frame that is no older
than that of the call, or writes a property of an object that such a frame has. -/
theorem Writer.confined_assign (call : Caller σ) (home : FrameRef) (x : String) (scope : Scope) (v : Value)
    (m : Machine σ) :
    let result := (Writer.confined home x (.plain call)).assign scope x v m
    result = .error .stopped m ∨
    (∃ r, home.index ≤ r.index ∧ result = .ok () (m.bind r x v)) ∨
    (∃ r o, home.index ≤ r.index ∧ (m.frame r).kind = .object o ∧ result = Run.setProperty call o x v m) := by
  intro result
  have watched : result = EStateM.bind
      (Run.watch fun m => x = x && !m.isFoundIn (ownFrames home scope) (m.resolve? scope x))
      (fun _ => Run.setName call scope x v) m := rfl
  unfold EStateM.bind Run.watch at watched
  rw [Run.setName_eq] at watched
  have setting (f : Option Resolved → Run σ Unit) : (Run.find scope x >>= f) m = f (m.resolve? scope x) m := rfl
  cases found : m.isFoundIn (ownFrames home scope) (m.resolve? scope x) with
  | false =>
    refine .inl (watched.trans ?_)
    simp [found]
  | true =>
    refine .inr ?_
    simp only [found, decide_true, Bool.not_true, Bool.and_false, Bool.false_eq_true, if_false, setting] at watched
    cases place : m.resolve? scope x with
    | none =>
      rw [place] at found
      cases found
    | some place' =>
      rw [place] at found watched
      cases place' with
      | binding owner =>
        obtain ⟨r, head, own⟩ := (Option.any_eq_true _ _).1 found
        have declared : m.declare owner x v = m.bind r x v := by
          change m.bind (owner.head?.getD globalFrame) x v = _
          rw [head, Option.getD_some]
        exact .inl ⟨r, le_of_mem_ownFrames (List.contains_iff_mem.1 own),
          watched.trans (congrArg (EStateM.Result.ok ()) declared)⟩
      | property o =>
        obtain ⟨r, own, kind⟩ := List.any_eq_true.1 found
        exact .inr ⟨r, o, le_of_mem_ownFrames own, of_decide_eq_true kind, watched⟩

/-! ### Frames that stay -/

/-- All changes under which frames stay. -/
def growing : Steadiness σ where
  Holds _ := True
  Small m m' := m.FramesGrow m'
  Stops := False
  refl := .refl
  trans := .trans
  holds _ _ := trivial
  memory _ _ kept := kept.toFramesGrow
  bind r name v _ _ := .bind _ r name v
  aside _ _ _ := .of_eq rfl
  opens _ _ := trivial
  fresh _ := trivial
  enters _ _ := trivial
  leaves grown := ⟨grown.size, grown.kind, grown.bound⟩

instance : (growing : Steadiness σ).congruence.Everywhere := ⟨fun _ => trivial⟩

instance : (growing : Steadiness σ).congruence.OwnsAll := ⟨fun _ => trivial⟩

/-- Whether a frame is there that belongs to a call and binds a name. -/
structure Confines (home : FrameRef) (x : String) (m : Machine σ) : Prop where
  inner : home ≠ globalFrame
  there : home.index < m.frames.size
  holdsVariables : (m.frame home).kind.holdsVariables
  bound : m.isBound home x

theorem Confines.grow {home : FrameRef} {x : String} {m m' : Machine σ} (on : Confines home x m)
    (grown : m.FramesGrow m') :
    Confines home x m' where
  inner := on.inner
  there := Nat.lt_of_lt_of_le on.there grown.size
  holdsVariables := by
    rw [grown.kind home on.there]
    exact on.holdsVariables
  bound := grown.bound home x on.inner on.bound

/-- All changes under which frames stay, for the own code of a call. -/
def confining (home : FrameRef) (outer : Scope) (x : String) : Steadiness σ where
  Holds := Confines home x
  Small m m' := m.FramesGrow m'
  Inside scope := ∃ opened, scope = opened ++ home :: outer ∧ ∀ r ∈ opened, home.index < r.index
  Stops := False
  refl := .refl
  trans := .trans
  holds := .grow
  memory _ _ kept := kept.toFramesGrow
  bind r name v _ _ := .bind _ r name v
  aside _ _ _ := .of_eq rfl
  opens {m _} on := fun ⟨opened, here, newer⟩ =>
    ⟨⟨m.frames.size⟩ :: opened, by rw [here]; rfl, List.forall_mem_cons.2 ⟨on.there, newer⟩⟩
  fresh _ := trivial
  enters on _ := ⟨on.inner, on.there, on.holdsVariables, on.bound⟩
  leaves grown := ⟨grown.size, grown.kind, grown.bound⟩

instance (home : FrameRef) (outer : Scope) (x : String) :
    (confining home outer x : Steadiness σ).congruence.OwnsAll := ⟨fun _ => trivial⟩

/-! ### Finding names that the frame of a call binds -/

section Finding

variable {home : FrameRef} {x : String} {m : Machine σ} {outer opened : Scope}

theorem ownFrames_eq (newer : ∀ r ∈ opened, home.index < r.index) :
    ownFrames home (opened ++ home :: outer) = opened ++ [home] := by
  rw [ownFrames, List.takeWhile_append_of_pos fun r inside => decide_eq_true (newer r inside),
    List.takeWhile_cons_of_neg (by simp), List.append_nil]

theorem Confines.isFoundIn (on : Confines home x m) (has : Value → String → Bool) (frames : Scope)
    (own : ∀ r ∈ opened ++ [home], r ∈ frames) :
    m.isFoundIn frames (m.resolveWith? has (opened ++ home :: outer) x) := by
  -- on the frames that were opened inside of the call; behind them is its own one, which binds the name
  induction opened with
  | nil =>
    rw [List.nil_append, resolveWith?]
    have here : frames.contains home := List.contains_iff_mem.2 (own home List.mem_cons_self)
    have bound := on.bound
    have holdsVariables := on.holdsVariables
    cases kind : (m.frame home).kind with
    | object o =>
      rw [kind] at holdsVariables
      cases holdsVariables
    | global | function _ | arrow | block =>
      dsimp only
      rw [if_pos bound]
      exact here
  | cons r opened ih =>
    have rest := ih fun r' inside => own r' (List.mem_cons_of_mem r inside)
    have here : r ∈ frames := own r List.mem_cons_self
    rw [List.cons_append, resolveWith?]
    cases kind : (m.frame r).kind with
    | object o =>
      dsimp only
      split
      · exact List.any_eq_true.2 ⟨r, here, decide_eq_true kind⟩
      · exact rest
    | global | function _ | arrow | block =>
      dsimp only
      split
      · exact List.contains_iff_mem.2 here
      · exact rest

theorem Confines.variableFrame_mem (on : Confines home x m) :
    m.variableFrame (opened ++ home :: outer) ∈ opened ++ [home] := by
  have own : (opened ++ home :: outer).find? (fun r => (m.frame r).kind.holdsVariables) =
      (opened ++ [home]).find? fun r => (m.frame r).kind.holdsVariables := by
    rw [List.find?_append, List.find?_append, List.find?_cons, List.find?_cons, on.holdsVariables]
  rw [variableFrame, own]
  cases found : (opened ++ [home]).find? fun r => (m.frame r).kind.holdsVariables with
  | some r => exact List.mem_of_find?_eq_some found
  | none =>
    exact absurd on.holdsVariables (List.find?_eq_none.1 found home (List.mem_append_right _ List.mem_cons_self))

end Finding

/-! ### Evaluators for own code -/

section Confining

variable {home : FrameRef} {outer : Scope} {x : String}

/-- Inside of its call, a confined writer does not stop. -/
theorem writes_confined {call : Caller σ} (hc : (confining home outer x).congruence.RelCalls call call) :
    (confining home outer x).congruence.Writes (.plain call) (.confined home x (.plain call)) := by
  refine ⟨fun scope inside name v => ?_, fun scope inside name => ?_, fun scope inside name v => ?_⟩
  all_goals
    obtain ⟨opened, rfl, newer⟩ := inside.inside
  · refine Steadiness.Follows.behind ((confining home outer x).congruence.setName hc _ name v) fun m on => ?_
    rw [ownFrames_eq newer, Bool.and_eq_false_imp]
    intro same
    obtain rfl := of_decide_eq_true same
    rw [resolve?, on.isFoundIn _ _ fun _ => id]
    rfl
  · refine Steadiness.Follows.behind ((confining home outer x).congruence.declareVariable _ name) fun m on => ?_
    rw [ownFrames_eq newer, List.contains_iff_mem.2 on.variableFrame_mem]
    exact Bool.and_false _
  · refine Steadiness.Follows.behind ((confining home outer x).congruence.declare _ name v) fun m on => ?_
    rw [ownFrames_eq newer]
    cases opened <;> simp

variable {host : Host σ} (outside : host.Outside FramesGrow fun waits => ∀ m, waits m = false)

include outside

/-- The code of hosts and the functions that are called let frames stay. -/
theorem growing_evaluators (n : Nat) :
    growing.congruence.Alike (Evaluator.ofFuel host n) (Evaluator.ofFuel host n) := by
  have tolerates : growing.congruence.Tolerates FramesGrow fun waits : Machine σ → Bool => ∀ m, waits m = false :=
    growing.tolerates fun _ vain => .inr fun m _ => vain m
  have alike := tolerates.evaluators outside (tolerates.watched fun _ => rfl) n
  rwa [Evaluator.watched_never] at alike

/-- Inside of its call, own code runs as it does without a confined writer. -/
theorem alike_ownCode (n : Nat) :
    (confining home outer x).congruence.Alike (Evaluator.ofFuel host n) (Evaluator.ownCode host home x n) := by
  have steady {α : Type} {y : Run σ α} (h : growing.Follows y y) : (confining home outer x).Follows y y :=
    h.weaken (fun _ _ => trivial) (fun _ _ => id) id
  have calls (n : Nat) : (confining home outer x).congruence.RelCalls (Evaluator.ofFuel host n).call
      (Evaluator.ofFuel host n).call := fun f this args => steady ((growing_evaluators outside n).call f this args)
  have hostCall := fun f this args => steady ((growing_evaluators outside 0).hostCall f this args)
  have begins := fun scope s => steady ((growing_evaluators outside 0).begins scope s)
  induction n with
  | zero =>
    exact ⟨rfl, hostCall, fun scope _ s => begins scope s, fun _ _ _ => Congruence.outOfFuel _,
      fun _ _ _ _ => Congruence.outOfFuel _,
      calls 0⟩
  | succ n ih =>
    have same : (Evaluator.ownCode host home x n).call = (Evaluator.ofFuel host n).call := by cases n <;> rfl
    have writes : (confining home outer x).congruence.Writes (.plain (Evaluator.ofFuel host n).call)
        (.confined home x (.plain (Evaluator.ownCode host home x n).call)) := by
      rw [same]
      exact writes_confined (calls n)
    refine ⟨rfl, hostCall, fun scope _ s => begins scope s, fun scope _ e => ?_, fun scope _ labels s => ?_,
      calls (n + 1)⟩
    · have run := Congruence.exprBy _ ih writes scope e
      rwa [Evaluator.exprBy_plain] at run
    · have run := (confining home outer x).thorough.stmtBy ih writes scope labels s
      rwa [Evaluator.stmtBy_plain] at run

end Confining

/-! ### What is bound before a body runs -/

/-- In the scope of a call, declarations are made in its own frame, and without fail. -/
theorem hoist_apply {r : FrameRef} (inner : r ≠ globalFrame) (outer : Scope) (ds : List Program.Declared)
    {m : Machine σ} (there : r.index < m.frames.size) (kind : (m.frame r).kind.holdsVariables) :
    ∃ m', Run.hoist (r :: outer) ds m = .ok () m' ∧ m.FramesGrow m' ∧ ∀ d ∈ ds, m'.isBound r d.name := by
  induction ds generalizing m with
  | nil => exact ⟨m, rfl, .refl m, nofun⟩
  | cons d ds ih =>
    -- a declaration that binds its name in the frame leaves the other ones to the induction
    have step (m₁ : Machine σ) (grown : m.FramesGrow m₁) (bound : m₁.isBound r d.name)
        (first : Run.hoist (r :: outer) (d :: ds) m = Run.hoist (r :: outer) ds m₁) :
        ∃ m', Run.hoist (r :: outer) (d :: ds) m = .ok () m' ∧ m.FramesGrow m' ∧
          ∀ d' ∈ d :: ds, m'.isBound r d'.name := by
      obtain ⟨m', ran, grown', bound'⟩ :=
        ih (Nat.lt_of_lt_of_le there grown.size) (by rw [grown.kind r there]; exact kind)
      refine ⟨m', first.trans ran, grown.trans grown', List.forall_mem_cons.2 ⟨?_, bound'⟩⟩
      exact grown'.bound r _ inner bound
    cases d with
    | «variable» name =>
      refine step (m.declareVariable (r :: outer) name) (.declareVariable m _ name) ?_ rfl
      have here : m.variableFrame (r :: outer) = r := by
        rw [variableFrame, List.find?_cons, kind]
        rfl
      rw [declareVariable, here]
      split
      · assumption
      · exact isBound_bind there name .undefined
    | function name decl =>
      let added := m.heap.addFunction { name := decl.name.getD "", kind := .script decl (r :: outer) }
      let m₀ : Machine σ := { m with heap := added.2 }
      have grown : m.FramesGrow m₀ := .of_eq rfl
      exact step (m₀.bind r name (.function added.1)) (grown.trans (.bind m₀ r name _))
        (isBound_bind (m := m₀) there name _) rfl

theorem contains_bindParams {t : Table Value} {ps : List String} {x : String} (given : t.contains x ∨ x ∈ ps)
    (args : List Value) : (bindParams t ps args).contains x := by
  induction ps generalizing t args with
  | nil => exact given.resolve_right List.not_mem_nil
  | cons p ps ih =>
    refine ih ?_ args.tail
    rw [Table.contains, Table.get?_put]
    by_cases same : p = x
    · rw [if_pos same]
      exact .inl rfl
    · rw [if_neg same]
      exact given.imp id fun inside => (List.mem_cons.1 inside).resolve_left fun h => same h.symm

/-- A frame that is opened for a body binds what the body declares, as soon as the body begins. -/
theorem opened_apply (kind : FrameKind) (holds : kind.holdsVariables) (bindings : Table Value) (scope : Scope)
    (ds : List Program.Declared) {m : Machine σ} (global : 0 < m.frames.size) :
    ∃ m', (∀ {α : Type} (body : Scope → Run σ α),
        (do let inner ← Run.openFrame kind bindings scope; Run.hoist inner ds; body inner) m =
          body (⟨m.frames.size⟩ :: scope) m') ∧
      ∀ x, bindings.contains x ∨ x ∈ ds.map Program.Declared.name → Confines ⟨m.frames.size⟩ x m' := by
  have inner : (⟨m.frames.size⟩ : FrameRef) ≠ globalFrame := fun h => Nat.ne_of_gt global (congrArg FrameRef.index h)
  let m₁ := (m.openFrame kind bindings scope).2
  have there : m.frames.size < m₁.frames.size := by
    change m.frames.size < (m.frames.push _).size
    rw [Array.size_push]
    exact Nat.lt_succ_self _
  have frame : m₁.frame ⟨m.frames.size⟩ = { kind, bindings } := by
    change ((m.frames.push _)[m.frames.size]?).getD _ = _
    rw [Array.getElem?_push_size]
    rfl
  have holds₁ : (m₁.frame ⟨m.frames.size⟩).kind.holdsVariables := by rwa [frame]
  obtain ⟨m', ran, grown, bound⟩ := hoist_apply inner scope ds there holds₁
  refine ⟨m', fun body => ?_, fun x given => ⟨inner, Nat.lt_of_lt_of_le there grown.size, ?_, ?_⟩⟩
  · change EStateM.bind (Run.hoist (⟨m.frames.size⟩ :: scope) ds) (fun _ => body _) m₁ = _
    unfold EStateM.bind
    rw [ran]
  · rw [grown.kind ⟨m.frames.size⟩ there, frame]
    exact holds
  · rcases given with given | declared
    · refine grown.bound _ x inner ?_
      rwa [isBound, frame]
    · obtain ⟨d, among, rfl⟩ := List.mem_map.1 declared
      exact bound d among

/-- What a function's own name is bound to in its calls. -/
def ownName (f : Value) (decl : Program.Func) : Table Value :=
  match decl.name with
  | some name => ({} : Table Value).put name f
  | none => {}

/-- When the body of a function begins, the frame of the call binds what the function declares. -/
theorem activation_apply (f this : Value) (args : List Value) (decl : Program.Func) (scope : Scope) {m : Machine σ}
    (global : 0 < m.frames.size) {x : String} (declares : decl.Declares x) :
    ∃ m', Confines ⟨m.frames.size⟩ x m' ∧ ∀ ev : Evaluator σ,
      ev.activation f this args decl scope m = ev.bodyValue decl (⟨m.frames.size⟩ :: scope) m' := by
  have declared {t : Table Value} (m' : Machine σ) (confines : ∀ y, (bindParams t decl.params args).contains y ∨
      y ∈ (Program.Declared.ofBody decl.body).map Program.Declared.name → Confines ⟨m.frames.size⟩ y m') :
      Confines ⟨m.frames.size⟩ x m' := by
    refine confines x (declares.imp (fun param => contains_bindParams (.inr param) args) ?_)
    exact Program.Declared.bodyDeclares_iff.1
  cases arrow : decl.isArrow with
  | true =>
    obtain ⟨m', ran, confines⟩ := opened_apply .arrow rfl (bindParams {} decl.params args) scope
      (Program.Declared.ofBody decl.body) global
    refine ⟨m', declared m' confines, fun ev => ?_⟩
    rw [Evaluator.activation, Run.enter, if_pos arrow]
    exact ran (ev.bodyValue decl)
  | false =>
    let added := m.heap.addArray args.toArray
    let m₀ : Machine σ := { m with heap := added.2 }
    obtain ⟨m', ran, confines⟩ := opened_apply (.function this) rfl
      (bindParams ((ownName f decl).put "arguments" (.array added.1)) decl.params args) scope
      (Program.Declared.ofBody decl.body) (m := m₀) global
    refine ⟨m', declared m' confines, fun ev => ?_⟩
    rw [Evaluator.activation, Run.enter, if_neg (by rw [arrow]; exact Bool.false_ne_true)]
    exact ran (ev.bodyValue decl)

/-! ### Whole calls -/

/-- Whether a run does the same as another one on a machine, and is not stopped. -/
structure DoesTheSame (x y : Run σ α) (m : Machine σ) : Prop where
  eq : y m = x m
  unstopped : ∀ m', y m ≠ .error .stopped m'

namespace DoesTheSame

variable {x y : Run σ α} {m : Machine σ}

theorem of_follows {S : Steadiness σ} (never : ¬ S.Stops) (on : S.Holds m) (follows : S.Follows x y) :
    DoesTheSame x y m where
  eq := (follows m on).same.resolve_right fun ⟨m', stopped⟩ => never ((follows m on).stops m' stopped)
  unstopped m' stopped := never ((follows m on).stops m' stopped)

theorem level (inside : DoesTheSame x y { m with depth := m.depth + 1 }) :
    DoesTheSame (Run.level x) (Run.level y) m := by
  obtain ⟨eq, unstopped⟩ := inside
  constructor
  · rw [Run.level_apply, Run.level_apply, Run.deeper, Run.deeper, eq]
  · intro m' stopped
    rw [Run.level_apply] at stopped
    split at stopped
    · unfold Run.deeper at stopped
      dsimp only at stopped
      split at stopped
      · cases stopped
      · next ran =>
        injection stopped with stopped
        exact unstopped _ (stopped ▸ ran)
    · cases stopped

end DoesTheSame

/-- Names that a function declares, as parameters, with `var` or as functions, at any depth but not inside of other
functions, stay inside of its calls. A call does the same if its own code is stopped where it gives such a name a value
anywhere else than in frames that were not there when the call began, or in the objects of those that have one; and it
is not stopped. So does the run of a factory. -/
theorem declared_names_stay_inside (host : Host σ) (outside : host.Outside FramesGrow fun waits => ∀ m, waits m = false)
    (m : Machine σ) (global : 0 < m.frames.size) (n : Nat) (x : String) :
    let home : FrameRef := ⟨m.frames.size⟩
    let ev := Evaluator.ofFuel host n
    let own := Evaluator.ownCode host home x n
    (∀ f this args decl scope, decl.Declares x →
      DoesTheSame (ev.callScript f this args decl scope) (own.callScript f this args decl scope) m) ∧
    (∀ params program this args, x ∈ params ∨ Program.BodyDeclares program.body x →
      DoesTheSame (ev.runFactory params program this args) (own.runFactory params program this args) m) ∧
    (∀ (call : Caller σ) scope v m',
      let result := (Writer.confined home x (.plain call)).assign scope x v m'
      result = .error .stopped m' ∨
      (∃ r, m.frames.size ≤ r.index ∧ result = .ok () (m'.bind r x v)) ∨
      (∃ r o, m.frames.size ≤ r.index ∧ (m'.frame r).kind = .object o ∧ result = Run.setProperty call o x v m')) := by
  intro home ev own
  -- Once the frame of the call binds the name, its own code runs alike.
  have alike (scope : Scope) : (confining home scope x).congruence.Alike ev own := alike_ownCode outside n
  have within (scope : Scope) : (confining home scope x : Steadiness σ).congruence.In (home :: scope) :=
    ⟨[], rfl, List.forall_mem_nil _⟩
  refine ⟨fun f this args decl scope declares => .level ?_, fun params program this args declares => ?_,
    fun call scope v m' => Writer.confined_assign call home x scope v m'⟩
  · have here := within scope
    obtain ⟨m', on, begins⟩ :=
      activation_apply f this args decl scope (m := { m with depth := m.depth + 1 }) global declares
    have follows : (confining home scope x).Follows (ev.bodyValue decl (home :: scope))
        (own.bodyValue decl (home :: scope)) := by
      refine Congruence.bind _ (Congruence.runBody _ (alike scope) _ decl) fun c => ?_
      cases c <;> exact Congruence.pure _ _
    obtain ⟨eq, unstopped⟩ := DoesTheSame.of_follows id on follows
    exact ⟨(begins own).trans (eq.trans (begins ev).symm),
      fun m'' stopped => unstopped m'' ((begins own).symm.trans stopped)⟩
  · have here := within globalScope
    obtain ⟨m', begins, confines⟩ := opened_apply (.function this) rfl (bindParams {} params args) globalScope
      (Program.Declared.ofBody program.body) global
    have on : Confines home x m' := confines x <|
      declares.imp (fun param => contains_bindParams (.inr param) args) Program.Declared.bodyDeclares_iff.1
    have follows : (confining home globalScope x).Follows
        (do let _ ← ev.body (home :: globalScope) program.body)
        (do let _ ← own.body (home :: globalScope) program.body) :=
      Congruence.bind _ (Congruence.body _ (alike globalScope) _ _) fun _ => Congruence.pure _ _
    obtain ⟨eq, unstopped⟩ := DoesTheSame.of_follows id on follows
    have run (e : Evaluator σ) : e.runFactory params program this args m =
        (do let _ ← e.body (home :: globalScope) program.body : Run σ Unit) m' :=
      begins fun scope => do let _ ← e.body scope program.body
    exact ⟨(run own).trans (eq.trans (run ev).symm), fun m'' stopped => unstopped m'' ((run own).symm.trans stopped)⟩

/-! ### A name that is bound in many places -/

namespace Shadowing

/-- A host whose functions do nothing. -/
def silent : Host Unit := { call := fun _ _ _ => return .undefined }

theorem outside : silent.Outside FramesGrow fun waits => ∀ m, waits m = false :=
  ⟨fun _ _ _ => .step fun m => ⟨_, m, rfl, .refl m⟩, fun _ _ => .step fun m => ⟨(), m, rfl, .refl m⟩,
    fun _ _ => .refl _⟩

/-- A function that declares a name in a clause, and changes it in an object, in a handler, in a loop and in that
clause. -/
def text : String :=
  "var x = 'outer'; var o = \x7b x: 1 \x7d; function f() \x7b with (o) \x7b x += 1; \x7d " ++
  "for (x in o) \x7b try \x7b throw 1; \x7d catch (x) \x7b x++; \x7d \x7d " ++
  "switch (x) \x7b case 'x': var x = x + x; \x7d return x; \x7d"

/-- The machine that knows the function. -/
def machine : Machine Unit := machineOf ((Task.eval text).run (Evaluator.ofFuel silent 20) (bare ()))

/-- The function and its declaration. -/
def f : Value := (machine.binding? globalFrame "f").getD .undefined

def decl : Program.Func :=
  match (machine.heap.function ⟨0⟩).kind with
  | .script decl _ => decl
  | _ => default

/-- A call of it with its own code confined. -/
def called : EStateM.Result Interrupt (Machine Unit) Value :=
  (Evaluator.ownCode silent ⟨machine.frames.size⟩ "x" 20).callScript f .undefined [] decl globalScope machine

end Shadowing

open Shadowing in
/-- The name has its value outside of the call as before. -/
theorem declared_names_stay_inside_shadowing :
    DoesTheSame ((Evaluator.ofFuel silent 20).callScript f .undefined [] decl globalScope)
      ((Evaluator.ownCode silent ⟨machine.frames.size⟩ "x" 20).callScript f .undefined [] decl globalScope) machine ∧
    (machineOf called).binding? globalFrame "x" = some (.string "outer") := by
  have facts : 0 < machine.frames.size ∧ decl.Declares "x" ∧
      (machineOf called).binding? globalFrame "x" = some (.string "outer") := by
    decide +kernel
  obtain ⟨global, declares, kept⟩ := facts
  obtain ⟨calls, -, -⟩ := declared_names_stay_inside silent outside machine global 20 "x"
  exact ⟨calls f .undefined [] decl globalScope declares, kept⟩

end ScriptCoverage.Machine
