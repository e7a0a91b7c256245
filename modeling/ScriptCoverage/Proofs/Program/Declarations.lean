import ScriptCoverage.Program.Hoist

/-!
What it means that a body declares a name. `Stmt.Part` says which statements stand in another one, in any branch, loop,
clause, handler or block of it, but not in functions. A statement declares the variables and the function that stand in
it or in a part (`Stmt.Declares`). Main statement: `Declared.bodyDeclares_iff` — these are the names that take effect
before the body runs.
-/

namespace ScriptCoverage.Program

/-! ### Declared names -/

/-- The name that a declaration binds. -/
def Declared.name : Declared → String
  | .variable name | .function name _ => name

/-- The statements of a clause. -/
def Case.body : Case → List Stmt
  | mk _ _ b => b

/-- The statements of a handler. -/
def Handler.body : Handler → List Stmt
  | mk _ _ b => b.body

/-- Statements that stand in another one, with no function and no other statement in between. -/
inductive Stmt.Part : Stmt → Stmt → Prop
  | consequent (span : Span) (test : Expr) (c : Stmt) (a : Option Stmt) : Part (.branch span test c a) c
  | alternate (span : Span) (test : Expr) (c a : Stmt) : Part (.branch span test c (some a)) a
  | block (b : Block) {s : Stmt} (inside : s ∈ b.body) : Part (.block b) s
  | whileLoop (span : Span) (test : Expr) (s : Stmt) : Part (.whileLoop span test s) s
  | doWhile (span : Span) (s : Stmt) (test : Expr) : Part (.doWhile span s test) s
  | forLoop (span : Span) (init : Init) (test update : Option Expr) (s : Stmt) :
    Part (.forLoop span init test update s) s
  | forIn (span : Span) (r : Receiver) (right : Expr) (s : Stmt) : Part (.forIn span r right s) s
  | labeled (span : Span) (label : String) (s : Stmt) : Part (.labeled span label s) s
  | switch (span : Span) (e : Expr) {cs : List Case} {c : Case} {s : Stmt} (clause : c ∈ cs) (inside : s ∈ c.body) :
    Part (.switch span e cs) s
  | guarded (span : Span) (b : Block) (h : Option Handler) (f : Option Block) {s : Stmt} (inside : s ∈ b.body) :
    Part (.tryCatch span b h f) s
  | handler (span : Span) (b : Block) (h : Handler) (f : Option Block) {s : Stmt} (inside : s ∈ h.body) :
    Part (.tryCatch span b (some h) f) s
  | finalizer (span : Span) (b : Block) (h : Option Handler) (f : Block) {s : Stmt} (inside : s ∈ f.body) :
    Part (.tryCatch span b h (some f)) s
  | withObject (span : Span) (e : Expr) (s : Stmt) : Part (.withObject span e s) s

/-- Whether a statement declares a name with `var`, also in the head of a loop, or as that of a function, itself or in a
part. -/
inductive Stmt.Declares (name : String) : Stmt → Prop
  | var (span : Span) {ds : List Declarator} {place : Span} {value : Option Expr} (among : .mk place name value ∈ ds) :
    Declares name (.declare span .var ds)
  | loop (span : Span) {ds : List Declarator} {place : Span} {value : Option Expr} (test update : Option Expr)
    (s : Stmt)
    (among : .mk place name value ∈ ds) : Declares name (.forLoop span (.declare .var ds) test update s)
  | key (span : Span) (right : Expr) (s : Stmt) : Declares name (.forIn span (.declare .var name) right s)
  | function {f : Func} (named : f.name = some name) : Declares name (.function f)
  | part {s t : Stmt} (inside : s.Part t) (declares : Declares name t) : Declares name s

/-- Whether a body declares a name. -/
def BodyDeclares (body : List Stmt) (name : String) : Prop := ∃ s ∈ body, s.Declares name

/-- Whether a function declares a name, as a parameter or in its body. -/
def Func.Declares (f : Func) (name : String) : Prop := name ∈ f.params ∨ BodyDeclares f.body name

/-! ### What takes effect before a body runs -/

namespace Declared

theorem mem_ofBody {d : Declared} {body : List Stmt} : d ∈ ofBody body ↔ ∃ s ∈ body, d ∈ ofStmt s := by
  induction body with
  | nil => simp [ofBody]
  | cons s ss ih => simp [ofBody, ih]

theorem mem_ofBlock {d : Declared} {b : Block} : d ∈ ofBlock b ↔ ∃ s ∈ b.body, d ∈ ofStmt s := by
  obtain ⟨span, body⟩ := b
  exact mem_ofBody

theorem mem_ofCases {d : Declared} {cs : List Case} : d ∈ ofCases cs ↔ ∃ c ∈ cs, ∃ s ∈ c.body, d ∈ ofStmt s := by
  induction cs with
  | nil => simp [ofCases]
  | cons c cs ih =>
    obtain ⟨span, test, body⟩ := c
    simp [ofCases, ofCase, mem_ofBody, ih, Case.body]

theorem mem_ofHandler {d : Declared} {h : Handler} : d ∈ ofHandler (some h) ↔ ∃ s ∈ h.body, d ∈ ofStmt s := by
  obtain ⟨span, param, b⟩ := h
  exact mem_ofBlock

/-- What a part of a statement declares, the statement declares. -/
theorem mem_ofStmt_of_part {d : Declared} {s t : Stmt} (inside : s.Part t) (declared : d ∈ ofStmt t) :
    d ∈ ofStmt s := by
  cases inside with
  | consequent => exact List.mem_append_left _ declared
  | alternate => exact List.mem_append_right _ declared
  | block b h => exact mem_ofBlock.2 ⟨t, h, declared⟩
  | whileLoop | doWhile | labeled | withObject => exact declared
  | forLoop | forIn => exact List.mem_append_right _ declared
  | switch _ _ clause h => exact mem_ofCases.2 ⟨_, clause, t, h, declared⟩
  | guarded _ _ _ _ h => exact List.mem_append_left _ (List.mem_append_left _ (mem_ofBlock.2 ⟨t, h, declared⟩))
  | handler _ _ _ _ h => exact List.mem_append_left _ (List.mem_append_right _ (mem_ofHandler.2 ⟨t, h, declared⟩))
  | finalizer _ _ _ _ h => exact List.mem_append_right _ (mem_ofBlock.2 ⟨t, h, declared⟩)

/-- No declaration is forgotten. -/
theorem exists_mem_ofStmt {s : Stmt} {name : String} (declares : s.Declares name) : ∃ d ∈ ofStmt s, d.name = name := by
  have variable_mem {ds : List Declarator} {place : Span} {value : Option Expr} (among : .mk place name value ∈ ds) :
      .variable name ∈ ofDeclarators .var ds := List.mem_map.2 ⟨_, among, rfl⟩
  induction declares with
  | var _ among => exact ⟨_, variable_mem among, rfl⟩
  | loop _ _ _ _ among => exact ⟨_, List.mem_append_left _ (variable_mem among), rfl⟩
  | key => exact ⟨_, List.mem_append_left _ List.mem_cons_self, rfl⟩
  | @function f named => exact ⟨.function name f, by simp [ofStmt, ofFunction, named], rfl⟩
  | part inside _ ih =>
    obtain ⟨d, declared, same⟩ := ih
    exact ⟨d, mem_ofStmt_of_part inside declared, same⟩

mutual

theorem declares_of_mem_stmt {d : Declared} : (s : Stmt) → d ∈ ofStmt s → s.Declares d.name
  | .declare span .var ds, declared => by
    obtain ⟨⟨place, name, value⟩, among, rfl⟩ := List.mem_map.1 declared
    exact .var span among
  | .function f, declared => by
    cases named : f.name with
    | none => simp [ofStmt, ofFunction, named] at declared
    | some name =>
      simp only [ofStmt, ofFunction, named, List.mem_singleton] at declared
      exact declared ▸ .function named
  | .branch span test c none, declared =>
    .part (.consequent ..) (declares_of_mem_stmt c ((List.mem_append.1 declared).resolve_right List.not_mem_nil))
  | .branch span test c (some a), declared => (List.mem_append.1 declared).elim
    (fun first => .part (.consequent ..) (declares_of_mem_stmt c first))
    (fun second => .part (.alternate ..) (declares_of_mem_stmt a second))
  | .block (.mk span b), declared =>
    have ⟨s, inside, declares⟩ := declares_of_mem_body b declared
    .part (.block _ inside) declares
  | .whileLoop _ _ s, declared => .part (.whileLoop ..) (declares_of_mem_stmt s declared)
  | .doWhile _ s _, declared => .part (.doWhile ..) (declares_of_mem_stmt s declared)
  | .labeled _ _ s, declared => .part (.labeled ..) (declares_of_mem_stmt s declared)
  | .withObject _ _ s, declared => .part (.withObject ..) (declares_of_mem_stmt s declared)
  | .forLoop span i test update s, declared => by
    refine (List.mem_append.1 declared).elim (fun first => ?_) fun second =>
      .part (.forLoop ..) (declares_of_mem_stmt s second)
    match i, first with
    | .declare .var ds, first =>
      obtain ⟨⟨place, name, value⟩, among, rfl⟩ := List.mem_map.1 first
      exact .loop span test update s among
  | .forIn span r right s, declared => by
    refine (List.mem_append.1 declared).elim (fun first => ?_) fun second =>
      .part (.forIn ..) (declares_of_mem_stmt s second)
    match r, first with
    | .declare .var name, first => exact List.mem_singleton.1 first ▸ .key span right s
  | .switch _ _ cs, declared =>
    have ⟨c, clause, s, inside, declares⟩ := declares_of_mem_cases cs declared
    .part (.switch _ _ clause inside) declares
  | .tryCatch span (.mk place b) h f, declared => (List.mem_append.1 declared).elim
    (fun rest => (List.mem_append.1 rest).elim
      (fun first =>
        have ⟨s, inside, declares⟩ := declares_of_mem_body b first
        .part (.guarded _ _ _ _ inside) declares)
      (fun second => match h, second with
        | some (.mk _ _ (.mk _ b)), second =>
          have ⟨s, inside, declares⟩ := declares_of_mem_body b second
          .part (.handler _ _ _ _ inside) declares))
    (fun last => match f, last with
      | some (.mk _ b), last =>
        have ⟨s, inside, declares⟩ := declares_of_mem_body b last
        .part (.finalizer _ _ _ _ inside) declares)

theorem declares_of_mem_body {d : Declared} : (body : List Stmt) → d ∈ ofBody body → BodyDeclares body d.name
  | s :: ss, declared => (List.mem_append.1 declared).elim
    (fun first => ⟨s, List.mem_cons_self, declares_of_mem_stmt s first⟩)
    (fun rest =>
      have ⟨t, inside, declares⟩ := declares_of_mem_body ss rest
      ⟨t, List.mem_cons_of_mem s inside, declares⟩)

theorem declares_of_mem_cases {d : Declared} : (cs : List Case) → d ∈ ofCases cs →
    ∃ c ∈ cs, ∃ s ∈ c.body, s.Declares d.name
  | .mk _ _ b :: cs, declared => (List.mem_append.1 declared).elim
    (fun first => ⟨_, List.mem_cons_self, declares_of_mem_body b first⟩)
    (fun rest =>
      have ⟨c, clause, declares⟩ := declares_of_mem_cases cs rest
      ⟨c, List.mem_cons_of_mem _ clause, declares⟩)

end

/-- A body declares the names that take effect before it runs, and no others. -/
theorem bodyDeclares_iff {body : List Stmt} {name : String} :
    BodyDeclares body name ↔ name ∈ (ofBody body).map Declared.name := by
  rw [List.mem_map]
  refine ⟨fun ⟨s, inside, declares⟩ => ?_, fun ⟨d, declared, same⟩ => same ▸ declares_of_mem_body body declared⟩
  obtain ⟨d, declared, same⟩ := exists_mem_ofStmt declares
  exact ⟨d, mem_ofBody.2 ⟨s, inside, declared⟩, same⟩

end Declared

instance (body : List Stmt) (name : String) : Decidable (BodyDeclares body name) :=
  decidable_of_iff _ Declared.bodyDeclares_iff.symm

instance (f : Func) (name : String) : Decidable (f.Declares name) :=
  inferInstanceAs (Decidable (name ∈ f.params ∨ BodyDeclares f.body name))

end ScriptCoverage.Program
