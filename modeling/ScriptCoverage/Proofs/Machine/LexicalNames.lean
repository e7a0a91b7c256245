import ScriptCoverage.Proofs.Machine.OwnCode
import ScriptCoverage.Proofs.Machine.PlainScopes

/-!
What `let` and `const` declare. A declaration binds a name in the innermost frame of the scope that it runs in. The told
evaluator (`Evaluator.told`) is one that is told a value for the name in that frame: it answers references with the
value and looks nothing up, and it stops where the name is about to get a value in the frame. Main statement:
`lexical_names_visible` — behind a declaration the rest of a list of statements runs as it does with the told evaluator,
unless the innermost frame is that of an object, where no look-up finds what was declared.
-/

namespace ScriptCoverage.Machine

open Program (Expr Stmt Place Declarator)
open Source (DeclKind)

variable {σ α : Type}

/-! ### References that lead to a frame -/

/-- Whether a name in a scope is looked up in a frame: the scope has the frame, and what is inside of it does not have
the name. -/
def leadsTo (m : Machine σ) (r : FrameRef) (scope : Scope) (name : String) : Bool :=
  scope.contains r && (m.resolve? (scope.takeWhile (· ≠ r)) name).isNone

/-- The frame in which a name would get a value, if it is in one. -/
def assigned? (m : Machine σ) (scope : Scope) (name : String) : Option FrameRef :=
  match m.resolve? scope name with
  | some (.binding owner) => some (owner.head?.getD globalFrame)
  | some (.property _) => none
  | none => some globalFrame

/-- Whether a frame that is not one of an object binds a name to a value. -/
structure Lexical (r : FrameRef) (x : String) (v : Value) (m : Machine σ) : Prop where
  kind : ∀ o, (m.frame r).kind ≠ .object o
  value : m.binding? r x = some v

variable {r : FrameRef} {x : String} {v : Value} {m : Machine σ} {scope : Scope}

theorem resolve?_cons (m : Machine σ) (s : FrameRef) (outer : Scope) (name : String) :
    m.resolve? (s :: outer) name = match (m.frame s).kind with
      | .object o => if m.heap.hasProperty o name then some (.property o) else m.resolve? outer name
      | _ => if m.isBound s name then some (.binding (s :: outer)) else m.resolve? outer name := rfl

/-- A frame in which a name is not found is passed over. -/
theorem resolve?_of_passed {s : FrameRef} {inner : Scope} {name : String}
    (unfound : (m.resolve? (s :: inner) name).isNone) :
    (m.resolve? inner name).isNone ∧ ∀ outer, m.resolve? (s :: outer) name = m.resolve? outer name := by
  simp only [resolve?_cons] at unfound ⊢
  cases kind : (m.frame s).kind with
  | object o =>
    cases has : m.heap.hasProperty o name with
    | true => simp [kind, has] at unfound
    | false => simpa [kind, has] using unfound
  | global | function _ | arrow | block =>
    cases bound : m.isBound s name with
    | true => simp [kind, bound] at unfound
    | false => simpa [kind, bound] using unfound

/-- A name that is looked up in a frame that binds it is found there. -/
theorem Lexical.resolve? (on : Lexical r x v m) (reached : m.leadsTo r scope x) :
    ∃ outer, m.resolve? scope x = some (.binding (r :: outer)) := by
  obtain ⟨there, unfound⟩ := Bool.and_eq_true_iff.1 reached
  clear reached
  induction scope with
  | nil => cases there
  | cons s outer ih =>
    by_cases here : s = r
    · subst here
      refine ⟨outer, ?_⟩
      have bound : m.isBound s x := by rw [isBound_eq, on.value, Option.isSome_some]
      rw [resolve?_cons]
      split
      · next o kind => exact absurd kind (on.kind o)
      · rw [if_pos bound]
    · have beyond : outer.contains r := by
        rwa [List.contains_cons, beq_false_of_ne (Ne.symm here), Bool.false_or] at there
      rw [List.takeWhile_cons_of_pos (by simpa using here)] at unfound
      obtain ⟨inside, passed⟩ := resolve?_of_passed unfound
      rw [passed]
      exact ih beyond inside

/-- A reference that leads to a frame has the value that the name has there. -/
theorem Lexical.getName (on : Lexical r x v m) (reached : m.leadsTo r scope x) (call : Caller σ) :
    Run.getName call scope x m = .ok v m := by
  obtain ⟨outer, found⟩ := on.resolve? reached
  rw [getName_apply, found]
  exact congrArg (fun o : Option Value => EStateM.Result.ok (o.getD .undefined) m) on.value

/-- What changes other frames, or is seen in none, keeps the value. -/
theorem Lexical.grow {m' : Machine σ} (on : Lexical r x v m) (grown : m.FramesGrow m')
    (value : m'.binding? r x = some v) : Lexical r x v m' where
  kind := by
    rw [grown.kind r (index_lt_of_binding? on.value)]
    exact on.kind
  value := value

/-! ### Evaluators that are told the value of a name -/

/-- A writer that stops where it would give a name a value in a frame. -/
def Writer.sparing (r : FrameRef) (x : String) (w : Writer σ) : Writer σ where
  assign scope name v := do
    Run.watch fun m => name = x && m.assigned? scope name = some r
    w.assign scope name v
  declareVariable := w.declareVariable
  declare scope name v := do
    Run.watch fun _ => name = x && scope.head?.getD globalFrame = r
    w.declare scope name v

/-- Runs one thing on some machines and another one on the others. -/
def Run.choose (p : Machine σ → Bool) (y z : Run σ α) : Run σ α := fun m => if p m then y m else z m

namespace Evaluator

/-- Evaluates an expression with a writer, where the value of a name in a frame is known: a reference that leads to the
frame has that value, `typeof` knows that the name is bound, and an assignment that depends on the value goes by it. -/
def exprTold (ev : Evaluator σ) (r : FrameRef) (x : String) (v : Value) (w : Writer σ) (scope : Scope) (e : Expr) :
    Run σ Value :=
  let told (name : String) (m : Machine σ) : Bool := name = x && m.leadsTo r scope x
  match e with
  | .place (.name _ name) => .choose (told name) (return v) (ev.exprBy w scope e)
  | .unary _ .typeOf (.place (.name s name)) =>
    .choose (told name) (do return .string (← ev.expr scope (.place (.name s name))).typeName) (ev.exprBy w scope e)
  | .assign s (.logical op) (.name s' name) value =>
    .choose (told name)
      (if skipsRight op v then return v else ev.exprBy w scope (.assign s .assign (.name s' name) value))
      (ev.exprBy w scope e)
  | e => ev.exprBy w scope e

/-- The evaluator that is told the value of a name in a frame, and stops where the name is about to get one there. -/
def told (host : Host σ) (r : FrameRef) (x : String) (v : Value) : Nat → Evaluator σ
  | 0 => ofFuel host 0
  | n + 1 =>
    let ev := told host r x v n
    { fuel := n + 1
      host
      expr := fun scope e => ev.exprTold r x v (.sparing r x (.plain ev.call)) scope e
      stmt := fun scope labels s => ev.stmtBy (.sparing r x (.plain ev.call)) scope labels s
      call := fun f this args => ev.evalCall f this args }

@[simp]
theorem host_told (host : Host σ) (r : FrameRef) (x : String) (v : Value) (n : Nat) :
    (told host r x v n).host = host := by cases n <;> rfl

end Evaluator

/-! ### Runs that spare a binding -/

/-- Whether frames stay, and a name keeps its value in one of them. -/
def Spared (r : FrameRef) (x : String) (m m' : Machine σ) : Prop :=
  m.FramesGrow m' ∧ ∀ w, m.binding? r x = some w → m'.binding? r x = some w

theorem spared_bind (m : Machine σ) {s : FrameRef} {name : String} (ne : r ≠ s ∨ x ≠ name) (w : Value) :
    Spared r x m (m.bind s name w) := by
  refine ⟨.bind m s name w, fun v bound => ?_⟩
  rwa [binding?_bind_elsewhere m ne]

/-- Changes under which frames stay, and a name keeps its value in one of them, until a run is stopped. -/
def sparing (r : FrameRef) (x : String) (v : Value) : Steadiness σ where
  Holds := Lexical r x v
  Small := Spared r x
  Free s := s ≠ r
  Stops := True
  refl m := ⟨.refl m, fun _ => id⟩
  trans first second := ⟨first.1.trans second.1, fun w bound => second.2 w (first.2 w bound)⟩
  holds on small := on.grow small.1 (small.2 _ on.value)
  memory _ _ kept := ⟨kept.toFramesGrow, kept.value r x⟩
  bind _ _ w _ other := spared_bind _ (.inl other.symm) w
  aside _ _ _ := ⟨.of_eq rfl, fun _ => id⟩
  opens _ _ := trivial
  fresh on := fun same => Nat.ne_of_gt (index_lt_of_binding? on.value) (congrArg FrameRef.index same)
  enters on _ := ⟨on.kind, on.value⟩
  leaves small := ⟨⟨small.1.size, small.1.kind, small.1.bound⟩, small.2⟩

instance (r : FrameRef) (x : String) (v : Value) : (sparing r x v : Steadiness σ).congruence.Everywhere :=
  ⟨fun _ => trivial⟩

section Telling

variable {call call' : Caller σ}

theorem setName_sparing (hc : (sparing r x v).congruence.RelCalls call call') {name : String} (on : Lexical r x v m)
    (ne : m.assigned? scope name ≠ some r ∨ x ≠ name) (w : Value) :
    (sparing r x v).Leaves m (Run.setName call scope name w m) (Run.setName call' scope name w m) := by
  rw [setName_apply, setName_apply]
  rw [assigned?] at ne
  rcases place : m.resolve? scope name with - | owner | o <;> rw [place] at ne
  · exact .ok () (spared_bind m (ne.imp_left fun h same => h (congrArg some same.symm)) w)
  · exact .ok () (spared_bind m (ne.imp_left fun h same => h (congrArg some same.symm)) w)
  · exact (sparing r x v).congruence.setProperty hc o name w m on

theorem writes_sparing (hc : (sparing r x v).congruence.RelCalls call call') :
    (sparing r x v).congruence.Writes (.plain call) (.sparing r x (.plain call')) := by
  refine ⟨fun scope _ name w => ?_, fun scope _ name => (sparing r x v).congruence.declareVariable scope name,
    fun scope _ name w => ?_⟩
  · refine .guarded trivial fun m on waits => setName_sparing hc on ?_ w
    have apart : ¬ (m.assigned? scope name = some r ∧ x = name) := by
      rintro ⟨here, rfl⟩
      simp [here] at waits
    exact Decidable.not_and_iff_not_or_not.1 apart
  · refine .guarded trivial fun m on waits => .ok () (spared_bind m ?_ w)
    have apart : ¬ (r = scope.head?.getD globalFrame ∧ x = name) := by
      rintro ⟨here, rfl⟩
      simp [here] at waits
    exact Decidable.not_and_iff_not_or_not.1 apart

/-- What is chosen on some machines has to end as the other run does on these only. -/
theorem follows_choose {S : Steadiness σ} {p : Machine σ → Bool} {y z w : Run σ α}
    (chosen : ∀ m, S.Holds m → p m → S.Leaves m (y m) (z m)) (other : S.Follows y w) :
    S.Follows y (Run.choose p z w) := by
  intro m on
  unfold Run.choose
  split
  · next h => exact chosen m on h
  · exact other m on

variable {ev ev' : Evaluator σ} {name : String}

/-- The type of a name that is bound is that of its value. -/
theorem evalExpr_typeOf (bound : (m.resolve? scope name).isSome) (s s' : Span) :
    ev.evalExpr scope (.unary s .typeOf (.place (.name s' name))) m =
      (do return .string (← ev.expr scope (.place (.name s' name))).typeName : Run σ Value) m := by
  have known : Evaluator.isUnboundName m scope (.place (.name s' name)) = false := by
    rw [Evaluator.isUnboundName, Option.isNone_eq_false_iff, bound]
  have typed : ev.typeOf scope (.place (.name s' name)) m =
      EStateM.bind (ev.expr scope (.place (.name s' name))) (fun w => pure w.typeName) m := by
    rw [Evaluator.typeOf_eq]
    change (if Evaluator.isUnboundName m scope (.place (.name s' name)) then _ else _ : Run σ String) m = _
    rw [known, if_neg Bool.false_ne_true]
    rfl
  change EStateM.bind (ev.typeOf scope (.place (.name s' name))) _ m =
    EStateM.bind (ev.expr scope (.place (.name s' name))) _ m
  rw [EStateM.bind, typed, EStateM.bind, EStateM.bind]
  cases ev.expr scope (.place (.name s' name)) m <;> rfl

/-- An assignment that depends on the value of a name goes by the value that was read. -/
theorem evalExpr_logical {v : Value} (read : Run.getName ev.call scope name m = .ok v m) (s s' : Span)
    (op : Source.LogicalOp) (value : Expr) :
    ev.evalExpr scope (.assign s (.logical op) (.name s' name) value) m =
      (if skipsRight op v then return v else ev.evalExpr scope (.assign s .assign (.name s' name) value) : Run σ Value) m := by
  change EStateM.bind (Run.getName ev.call scope name) _ m = _
  rw [EStateM.bind, read]
  dsimp only
  split <;> rfl

/-- An expression is evaluated as it is by one who is told the value of the name. -/
theorem exprTold (hp : (sparing r x v).congruence.Alike ev ev') (scope : Scope) (e : Expr) :
    (sparing r x v).Follows (ev.evalExpr scope e) (ev'.exprTold r x v (.sparing r x (.plain ev'.call)) scope e) := by
  have plainly (e : Expr) :
      (sparing r x v).Follows (ev.evalExpr scope e) (ev'.exprBy (.sparing r x (.plain ev'.call)) scope e) := by
    have run := (sparing r x v).congruence.exprBy hp (writes_sparing hp.call) scope e
    rwa [Evaluator.exprBy_plain] at run
  unfold Evaluator.exprTold
  split
  · next s name =>
    -- a name
    refine follows_choose (fun m on told => ?_) (plainly _)
    obtain ⟨same, reached⟩ := Bool.and_eq_true_iff.1 told
    obtain rfl := of_decide_eq_true same
    change (sparing r name v).Leaves m (Run.getName ev.call scope name m) (.ok v m)
    rw [on.getName reached]
    exact .ok v ((sparing r name v).refl m)
  · next s s' name =>
    -- the type of a name
    refine follows_choose (fun m on told => ?_) (plainly _)
    obtain ⟨same, reached⟩ := Bool.and_eq_true_iff.1 told
    obtain rfl := of_decide_eq_true same
    obtain ⟨outer, found⟩ := on.resolve? reached
    rw [evalExpr_typeOf (by rw [found, Option.isSome_some])]
    exact Congruence.bind _ (hp.expr scope _) (fun _ => Congruence.pure _ _) m on
  · next s op s' name value =>
    -- an assignment that depends on the value of a name
    refine follows_choose (fun m on told => ?_) (plainly _)
    obtain ⟨same, reached⟩ := Bool.and_eq_true_iff.1 told
    obtain rfl := of_decide_eq_true same
    rw [evalExpr_logical (on.getName reached ev.call)]
    split
    · exact .ok v ((sparing r name v).refl m)
    · exact plainly _ m on
  · exact plainly e

end Telling

/-- Whether the functions of a host, and what it does beside a run, are followed by those of another host. -/
structure Host.FollowedBy (S : Steadiness σ) (host host' : Host σ) : Prop where
  call : ∀ f this args, S.Follows (host.call f this args) (host'.call f this args)
  begins : ∀ scope s, S.Follows (host.begins scope s) (host'.begins scope s)
  loads : ∀ e, S.Follows (Run.note (host.loads e)) (Run.note (host'.loads e))

section Evaluating

variable {host host' : Host σ} (follows : host.FollowedBy (sparing r x v) host')

include follows

/-- A whole run is as it is with an evaluator that is told the value of a name, while the name has that value. -/
theorem alike_told (n : Nat) :
    (sparing r x v).congruence.Alike (Evaluator.ofFuel host n) (Evaluator.told host' r x v n) := by
  induction n with
  | zero =>
    exact ⟨rfl, follows.call, fun scope _ s => follows.begins scope s, fun _ _ _ => Congruence.outOfFuel _,
      fun _ _ _ _ => Congruence.outOfFuel _, fun _ _ _ => Congruence.outOfFuel _⟩
  | succ n ih =>
    refine ⟨rfl, follows.call, fun scope _ s => follows.begins scope s, fun scope _ e => exprTold ih scope e,
      fun scope _ labels s => ?_, fun f this args => ?_⟩
    · have run := (sparing r x v).thorough.stmtBy ih (writes_sparing ih.call) scope labels s
      rwa [Evaluator.stmtBy_plain] at run
    · have loads : ∀ e, (sparing r x v).Follows (Run.note ((Evaluator.ofFuel host n).host.loads e))
          (Run.note ((Evaluator.told host' r x v n).host.loads e)) := by
        have same : (Evaluator.ofFuel host n).host = host := by cases n <;> rfl
        rw [same, Evaluator.host_told]
        exact follows.loads
      exact Congruence.evalCall _ ih ((sparing r x v).thorough.load ih loads) f this args

end Evaluating

/-! ### Declarations in lists of statements -/

namespace Evaluator

/-- What is left of a list of statements behind a declarator: the other declarators of its statement, and the other
statements. -/
def rest (parts ev : Evaluator σ) (w : Writer σ) (scope : Scope) (kind : DeclKind) (ds : List Declarator)
    (ss : List Stmt) : Run σ Completion := do
  parts.declaratorsBy w scope kind ds
  ev.body scope ss

/-- What is left of the statements of a script behind a declarator. -/
def scriptRest (parts ev : Evaluator σ) (w : Writer σ) (kind : DeclKind) (ds : List Declarator) (last : Value)
    (ss : List Stmt) : Run σ Value := do
  parts.declaratorsBy w globalScope kind ds
  ev.script last ss

theorem declarators_append (ev : Evaluator σ) (scope : Scope) (kind : DeclKind) (ds ds' : List Declarator) :
    ev.declarators scope kind (ds ++ ds') = (do ev.declarators scope kind ds; ev.declarators scope kind ds') := by
  induction ds with
  | nil => rfl
  | cons d ds ih =>
    obtain ⟨s, name, value⟩ := d
    cases kind <;> cases value <;> simp only [List.cons_append, declarators, ih, bind_assoc]

/-- A lexical declarator binds its name in the scope that it runs in. -/
theorem declarators_lexical (ev : Evaluator σ) (scope : Scope) {kind : DeclKind} (lexical : kind ≠ .var) (s : Span)
    (name : String) (init : Option Expr) (ds : List Declarator) :
    ev.declarators scope kind (.mk s name init :: ds) = (do
      Run.declare scope name (← ev.valueOf scope init)
      ev.declarators scope kind ds) := by
  cases kind with
  | var => exact absurd rfl lexical
  | let_ | const => rfl

variable (host : Host σ) (n : Nat) (scope : Scope) (span : Span) (kind : DeclKind) (ds : List Declarator)
  (ss : List Stmt)

/-- A list of statements that starts with a declaration. -/
theorem body_declare : (ofFuel host (n + 1)).body scope (.declare span kind ds :: ss) = (do
    host.begins scope (.declare span kind ds)
    (ofFuel host n).declarators scope kind ds
    (ofFuel host (n + 1)).body scope ss) := by
  have runs : (ofFuel host (n + 1)).stmt scope [] (.declare span kind ds) =
      (do (ofFuel host n).declarators scope kind ds; return .normal) := rfl
  rw [body, runs]
  simp only [bind_assoc, pure_bind]
  rfl

/-- A script that starts with a declaration. -/
theorem script_declare (last : Value) : (ofFuel host (n + 1)).script last (.declare span kind ds :: ss) = (do
    host.begins globalScope (.declare span kind ds)
    (ofFuel host n).declarators globalScope kind ds
    (ofFuel host (n + 1)).script last ss) := by
  have runs : (ofFuel host (n + 1)).stmt globalScope [] (.declare span kind ds) =
      (do (ofFuel host n).declarators globalScope kind ds; return .normal) := rfl
  rw [script, runs]
  · simp only [bind_assoc, pure_bind]
    rfl
  · intro s e no
    cases no

/-- What runs until a declarator has its value. -/
def upTo (init : Option Expr) (before : List Declarator) (s : Stmt) : Run σ Value := do
  host.begins scope s
  (ofFuel host n).declarators scope kind before
  (ofFuel host n).valueOf scope init

end Evaluator

/-- Behind a lexical declarator a run goes on where the name is bound. -/
theorem declared_apply {host : Host σ} {n : Nat} {outer : Scope} {kind : DeclKind} (lexical : kind ≠ .var)
    {init : Option Expr} {before after : List Declarator} {s : Stmt} {dspan : Span} {m m₁ : Machine σ}
    (reached : Evaluator.upTo host n (r :: outer) kind init before s m = .ok v m₁) (behind : Run σ α) :
    (do
      host.begins (r :: outer) s
      (Evaluator.ofFuel host n).declarators (r :: outer) kind (before ++ .mk dspan x init :: after)
      behind : Run σ α) m =
    (do
      (Evaluator.ofFuel host n).declarators (r :: outer) kind after
      behind : Run σ α) (m₁.bind r x v) := by
  have split : (do
      host.begins (r :: outer) s
      (Evaluator.ofFuel host n).declarators (r :: outer) kind (before ++ .mk dspan x init :: after)
      behind : Run σ α) = (do
      let w ← Evaluator.upTo host n (r :: outer) kind init before s
      Run.declare (r :: outer) x w
      (Evaluator.ofFuel host n).declarators (r :: outer) kind after
      behind) := by
    rw [Evaluator.declarators_append, Evaluator.declarators_lexical _ _ lexical]
    simp only [Evaluator.upTo, bind_assoc]
  rw [split]
  change EStateM.bind (Evaluator.upTo host n (r :: outer) kind init before s) _ m = _
  rw [EStateM.bind, reached]
  rfl

/-! ### Declarations in the frame of an object -/

theorem kind_bind (m : Machine σ) (r s : FrameRef) (name : String) (v : Value) :
    ((m.bind r name v).frame s).kind = (m.frame s).kind := kind_modifyBindings m r s _

/-- A binding that a name leads to is in a frame that is not one of an object. -/
theorem kind_of_resolve? {owner : Scope} {name : String} (found : m.resolve? scope name = some (.binding owner)) :
    ∃ s outer, owner = s :: outer ∧ ∀ o, (m.frame s).kind ≠ .object o := by
  induction scope with
  | nil => cases found
  | cons s outer ih =>
    rw [resolve?_cons] at found
    split at found
    · split at found
      · cases found
      · exact ih found
    · next other =>
      split at found
      · cases found
        exact ⟨s, outer, rfl, other⟩
      · exact ih found

/-- What is bound in the frame of an object is not found. -/
theorem resolve?_bind_object {o : Value} (kind : (m.frame r).kind = .object o) (scope : Scope) (name : String) :
    (m.bind r x v).resolve? scope name = m.resolve? scope name := by
  induction scope with
  | nil => rfl
  | cons s outer ih =>
    rw [resolve?_cons, resolve?_cons, kind_bind, ih]
    split
    · rfl
    · next other =>
      have elsewhere : s ≠ r := fun same => other o (same ▸ kind)
      rw [isBound_eq, binding?_bind_elsewhere m (.inl elsewhere), isBound_eq]

/-! ### Lists with a declaration -/

/-- Whether one run ended as another one, or was stopped on the way, and a name still has a value in a frame. -/
structure SeenThroughout (r : FrameRef) (x : String) (v : Value) (run told : EStateM.Result Interrupt (Machine σ) α) :
    Prop where
  same : told = run ∨ ∃ m', told = .error .stopped m'
  kept : (machineOf told).binding? r x = some v

theorem SeenThroughout.of_follows {y z : Run σ α} (follows : (sparing r x v).Follows y z) (on : Lexical r x v m) :
    SeenThroughout r x v (y m) (z m) :=
  ⟨(follows m on).same, (follows m on).small.2 v on.value⟩

/-- Behind a declaration with `let` or `const`, in a scope with frames of all kinds, the rest of a list of statements (or
of a script) runs as if the value was known. Let the innermost frame be none of an object. Then the run is the one of an
evaluator that is told the value, where each reference to the name that leads to that frame has it, unless that one is
stopped where the name gets a value in the frame again, by code or by its host; and the name has its value still. In the
frame of an object, which is not looked at for names, a declaration changes nothing: all names are found where they were
found before it, and have the values that they had. -/
theorem lexical_names_visible {host host' : Host σ} (n : Nat) (r : FrameRef) (outer : Scope) (kind : DeclKind)
    (x : String) (init : Option Expr) (before after : List Declarator) (ss : List Stmt) (span dspan : Span)
    (m m₁ : Machine σ) (v : Value) (lexical : kind ≠ .var) (there : r.index < m₁.frames.size)
    (reached : Evaluator.upTo host n (r :: outer) kind init before
      (.declare span kind (before ++ .mk dspan x init :: after)) m = .ok v m₁)
    (follows : host.FollowedBy (sparing r x v) host') :
    let scope := r :: outer
    let s : Stmt := .declare span kind (before ++ .mk dspan x init :: after)
    let ev := Evaluator.ofFuel host
    let told := Evaluator.told host' r x v
    let sparing := Writer.sparing r x (.plain (told n).call)
    let declared := m₁.bind r x v
    (ev (n + 1)).body scope (s :: ss) m =
      Evaluator.rest (ev n) (ev (n + 1)) (.plain (ev n).call) scope kind after ss declared ∧
    ((∀ o, (m₁.frame r).kind ≠ .object o) →
      SeenThroughout r x v ((ev (n + 1)).body scope (s :: ss) m)
        (Evaluator.rest (told n) (told (n + 1)) sparing scope kind after ss declared) ∧
      ∀ last, scope = globalScope → SeenThroughout r x v ((ev (n + 1)).script last (s :: ss) m)
        (Evaluator.scriptRest (told n) (told (n + 1)) sparing kind after last ss declared)) ∧
    ((∃ o, (m₁.frame r).kind = .object o) → ∀ scope' name,
      declared.resolve? scope' name = m₁.resolve? scope' name ∧
      ∀ owner, m₁.resolve? scope' name = some (.binding owner) →
        declared.binding? (owner.head?.getD globalFrame) name = m₁.binding? (owner.head?.getD globalFrame) name) := by
  intro scope s ev told sparing' declared
  have goesOn : (ev (n + 1)).body scope (s :: ss) m =
      Evaluator.rest (ev n) (ev (n + 1)) (.plain (ev n).call) scope kind after ss declared := by
    rw [Evaluator.rest, Evaluator.declaratorsBy_plain, Evaluator.body_declare]
    exact declared_apply lexical reached _
  refine ⟨goesOn, fun plain => ?_, fun ⟨o, object⟩ scope' name => ?_⟩
  · -- both runs go on from the machine behind the declaration, where the name has the value
    have on : Lexical r x v declared :=
      ⟨fun o => by rw [kind_bind]; exact plain o, binding?_bind_self there x v⟩
    have parts := alike_told follows n
    have whole := alike_told follows (n + 1)
    have others := Congruence.declaratorsBy _ parts (writes_sparing parts.call) scope kind after
    refine ⟨?_, fun last top => ?_⟩
    · rw [goesOn]
      exact .of_follows (Congruence.bind _ others fun _ => Congruence.body _ whole scope ss) on
    · have script : (ev (n + 1)).script last (s :: ss) m =
          Evaluator.scriptRest (ev n) (ev (n + 1)) (.plain (ev n).call) kind after last ss declared := by
        rw [Evaluator.scriptRest, Evaluator.declaratorsBy_plain, Evaluator.script_declare, ← top]
        exact declared_apply lexical reached _
      rw [script]
      rw [top] at others
      exact .of_follows (Congruence.bind _ others fun _ => Congruence.script _ whole last ss) on
  · refine ⟨resolve?_bind_object object scope' name, fun owner found => ?_⟩
    obtain ⟨s, inner, rfl, other⟩ := kind_of_resolve? found
    have elsewhere : s ≠ r := fun same => other o (by rw [same]; exact object)
    exact binding?_bind_elsewhere m₁ (.inl elsewhere) v

/-! ### A block, and the statement of an object -/

namespace Declaring

open Shadowing (silent)

/-- A machine with the frame of a handler inside of the global one, which binds the name. -/
def machine : Machine Unit where
  heap := {}
  frames := #[{ kind := .global, bindings := ⟨[("x", .string "outer")]⟩ }, { kind := .block }]
  host := ()

def handler : FrameRef := ⟨1⟩

/-- The name declared in the handler, and a reference to it. -/
def declaration : Stmt := .declare ⟨0, 0⟩ .let_ [.mk ⟨0, 0⟩ "x" (some (.string ⟨0, 0⟩ "inner"))]

def reference : Stmt := .returnValue ⟨0, 0⟩ (some (.place (.name ⟨0, 0⟩ "x")))

/-- The host whose functions do nothing spares all bindings. -/
theorem followed (S : Steadiness Unit) : silent.FollowedBy S silent where
  call _ _ _ := .step fun m _ => ⟨_, m, rfl, S.refl m⟩
  begins _ _ := .step fun m _ => ⟨(), m, rfl, S.refl m⟩
  loads _ := .step fun m _ => ⟨(), m, rfl, S.refl m⟩

/-- The value of a script that declares a name in the statement of an object and refers to it. -/
def returned : Option Value :=
  match (Task.eval "var x = 'outer'; var r; with (\x7b\x7d) \x7b let x = 'inner'; r = x; \x7d r").run
    (Evaluator.ofFuel silent 20) (bare ()) with
  | .ok v _ => some v
  | .error _ _ => none

end Declaring

open Declaring in
/-- In a handler the reference has the value that was declared. -/
theorem lexical_names_visible_handler :
    (Evaluator.ofFuel Shadowing.silent 3).body [handler, globalFrame] [declaration, reference] machine =
      .ok (.returned (.string "inner")) (machine.bind handler "x" (.string "inner")) := by
  obtain ⟨-, visible, -⟩ := lexical_names_visible 2 handler [globalFrame] .let_ "x" (some (.string ⟨0, 0⟩ "inner")) [] []
    [reference] ⟨0, 0⟩ ⟨0, 0⟩ machine machine (.string "inner") nofun (by decide) rfl (followed _)
  obtain ⟨⟨same, -⟩, -⟩ := visible nofun
  refine (same.resolve_right ?_).symm.trans rfl
  rintro ⟨m', stopped⟩
  cases stopped

open Declaring in
/-- In the statement of an object the reference has the value that the name has outside of it. -/
theorem lexical_name_hidden : returned = some (.string "outer") := by decide +kernel

end ScriptCoverage.Machine
