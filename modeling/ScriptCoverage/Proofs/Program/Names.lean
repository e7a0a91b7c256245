import ScriptCoverage.Proofs.Program.Bodies

/-!
Which names a program binds or assigns, and which ranges the statements of its sequential bodies have.
`BindsOnly names ranges` says that all of them are as given; names that are only read do not matter. Main
statements: `bindsOnly_ofBody` — what a body declares before it runs binds nothing that the body does not bind —
and `bodyBindsOnly_bodyMap` — neither does a body with changed bodies, if the change binds nothing.
-/

namespace ScriptCoverage.Program

section BindsOnly

variable (names : String → Prop) (ranges : Span → Prop)

mutual

def Expr.BindsOnly : Expr → Prop
  | .template _ _ es | .array _ es | .sequence _ es => Expr.AllBindOnly es
  | .place p => p.PartsBindOnly
  | .update _ _ _ p => p.BindsOnly
  | .object _ es => Entry.AllBindOnly es
  | .function g => g.BindsOnly
  | .unary _ _ e => e.BindsOnly
  | .binary _ _ l r | .logical _ _ l r => l.BindsOnly ∧ r.BindsOnly
  | .assign _ _ p e => p.BindsOnly ∧ e.BindsOnly
  | .conditional _ t c a => t.BindsOnly ∧ c.BindsOnly ∧ a.BindsOnly
  | .call _ c es | .construct _ c es => c.BindsOnly ∧ Expr.AllBindOnly es
  | .hole | .null _ | .bool .. | .number .. | .string .. | .regex .. | .this _ => True

def Expr.AllBindOnly : List Expr → Prop
  | [] => True
  | e :: es => e.BindsOnly ∧ Expr.AllBindOnly es

def Expr.OptionBindsOnly : Option Expr → Prop
  | none => True
  | some e => e.BindsOnly

/-- What a place needs to be read: its name may be any. -/
def Place.PartsBindOnly : Place → Prop
  | .name .. => True
  | .member _ o _ => o.BindsOnly
  | .index _ o k => o.BindsOnly ∧ k.BindsOnly

def Place.BindsOnly : Place → Prop
  | .name _ n => names n
  | .member _ o _ => o.BindsOnly
  | .index _ o k => o.BindsOnly ∧ k.BindsOnly

def Entry.BindsOnly : Entry → Prop
  | .mk _ k v => k.BindsOnly ∧ v.BindsOnly

def Entry.AllBindOnly : List Entry → Prop
  | [] => True
  | e :: es => e.BindsOnly ∧ Entry.AllBindOnly es

def Key.BindsOnly : Key → Prop
  | .fixed _ => True
  | .computed e => e.BindsOnly

def Func.BindsOnly : Func → Prop
  | .mk _ n ps _ b => (∀ name ∈ n, names name) ∧ (∀ name ∈ ps, names name) ∧ b.BindsOnly
  | .lambda _ ps e => (∀ name ∈ ps, names name) ∧ e.BindsOnly

def Block.BindsOnly : Block → Prop
  | .mk _ b => Stmt.BodyBindsOnly b

def Block.OptionBindsOnly : Option Block → Prop
  | none => True
  | some b => b.BindsOnly

def Declarator.BindsOnly : Declarator → Prop
  | .mk _ n v => names n ∧ Expr.OptionBindsOnly v

def Declarator.AllBindOnly : List Declarator → Prop
  | [] => True
  | d :: ds => d.BindsOnly ∧ Declarator.AllBindOnly ds

def Case.BindsOnly : Case → Prop
  | .mk _ t b => Expr.OptionBindsOnly t ∧ Stmt.BodyBindsOnly b

def Case.AllBindOnly : List Case → Prop
  | [] => True
  | c :: cs => c.BindsOnly ∧ Case.AllBindOnly cs

def Handler.BindsOnly : Handler → Prop
  | .mk _ n b => (∀ name ∈ n, names name) ∧ b.BindsOnly

def Handler.OptionBindsOnly : Option Handler → Prop
  | none => True
  | some h => h.BindsOnly

def Init.BindsOnly : Init → Prop
  | .none => True
  | .declare _ ds => Declarator.AllBindOnly ds
  | .value e => e.BindsOnly

def Receiver.BindsOnly : Receiver → Prop
  | .declare _ n => names n
  | .place p => p.BindsOnly

def Stmt.BindsOnly : Stmt → Prop
  | .expression _ e | .throwValue _ e => e.BindsOnly
  | .declare _ _ ds => Declarator.AllBindOnly ds
  | .function g => g.BindsOnly
  | .returnValue _ e => Expr.OptionBindsOnly e
  | .branch _ t c a => t.BindsOnly ∧ c.BindsOnly ∧ Stmt.OptionBindsOnly a
  | .block b => b.BindsOnly
  | .whileLoop _ e b | .doWhile _ b e | .withObject _ e b => e.BindsOnly ∧ b.BindsOnly
  | .forLoop _ i t u b => i.BindsOnly ∧ Expr.OptionBindsOnly t ∧ Expr.OptionBindsOnly u ∧ b.BindsOnly
  | .forIn _ r e b => r.BindsOnly ∧ e.BindsOnly ∧ b.BindsOnly
  | .labeled _ _ b => b.BindsOnly
  | .switch _ e cs => e.BindsOnly ∧ Case.AllBindOnly cs
  | .tryCatch _ b h g => b.BindsOnly ∧ Handler.OptionBindsOnly h ∧ Block.OptionBindsOnly g
  | .breakTo .. | .continueTo .. | .debugger _ | .empty _ => True

/-- The statements of a sequential body, whose ranges count. -/
def Stmt.BodyBindsOnly : List Stmt → Prop
  | [] => True
  | s :: ss => ranges s.span ∧ s.BindsOnly ∧ Stmt.BodyBindsOnly ss

def Stmt.OptionBindsOnly : Option Stmt → Prop
  | none => True
  | some s => s.BindsOnly

end

def Declared.BindsOnly : Declared → Prop
  | .variable name => names name
  | .function name decl => names name ∧ decl.BindsOnly names ranges

end BindsOnly

variable {names : String → Prop} {ranges : Span → Prop}

theorem Block.bindsOnly_body {b : Block} : Stmt.BodyBindsOnly names ranges b.body ↔ b.BindsOnly names ranges := by
  cases b; rfl

theorem Func.bindsOnly_params {g : Func} (h : g.BindsOnly names ranges) : ∀ name ∈ g.params, names name := by
  cases g with
  | mk => exact h.2.1
  | lambda => exact h.1

theorem Func.bindsOnly_name {g : Func} (h : g.BindsOnly names ranges) {name : String} (hn : g.name = some name) :
    names name := by
  cases g with
  | mk => exact h.1 name hn
  | lambda => cases hn

theorem Place.partsBindOnly {p : Place} (h : p.BindsOnly names ranges) : p.PartsBindOnly names ranges := by
  cases p with
  | name => trivial
  | _ => exact h

/-! ### Declarations -/

namespace Declared

theorem bindsOnly_ofDeclarators {kind : Source.DeclKind} {ds : List Declarator}
    (h : Declarator.AllBindOnly names ranges ds) : ∀ d ∈ ofDeclarators kind ds, d.BindsOnly names ranges := by
  cases kind with
  | var =>
    induction ds with
    | nil => intro d hd; cases hd
    | cons d ds ih =>
      obtain ⟨hd, hds⟩ := h
      intro e he
      rcases List.mem_cons.1 he with rfl | he
      · cases d; exact hd.1
      · exact ih hds e he
  | _ => intro d hd; cases hd

theorem bindsOnly_ofFunction {g : Func} (h : g.BindsOnly names ranges) :
    ∀ d ∈ ofFunction g, d.BindsOnly names ranges := by
  intro d hd
  cases hn : g.name with
  | none => simp [ofFunction, hn] at hd
  | some name =>
    obtain rfl : d = .function name g := by simpa [ofFunction, hn] using hd
    exact ⟨Func.bindsOnly_name h hn, h⟩

theorem bindsOnly_ofInit {i : Init} (h : i.BindsOnly names ranges) : ∀ d ∈ ofInit i, d.BindsOnly names ranges := by
  cases i with
  | declare kind ds => exact bindsOnly_ofDeclarators h
  | _ => intro d hd; cases hd

theorem bindsOnly_ofReceiver {r : Receiver} (h : r.BindsOnly names ranges) :
    ∀ d ∈ ofReceiver r, d.BindsOnly names ranges := by
  intro d hd
  cases r with
  | declare kind n =>
    cases kind with
    | var => obtain rfl : d = .variable n := by simpa [ofReceiver] using hd
             exact h
    | _ => cases hd
  | place p => cases hd

theorem bindsOnly_append {ds es : List Declared} (hd : ∀ d ∈ ds, d.BindsOnly names ranges)
    (he : ∀ d ∈ es, d.BindsOnly names ranges) : ∀ d ∈ ds ++ es, d.BindsOnly names ranges :=
  fun d h => (List.mem_append.1 h).elim (hd d) (he d)

mutual

theorem bindsOnly_ofStmt {s : Stmt} (h : s.BindsOnly names ranges) : ∀ d ∈ ofStmt s, d.BindsOnly names ranges := by
  match s, h with
  | .declare _ kind ds, h => exact bindsOnly_ofDeclarators h
  | .function g, h => exact bindsOnly_ofFunction h
  | .branch _ _ c a, ⟨_, hc, ha⟩ => exact bindsOnly_append (bindsOnly_ofStmt hc) (bindsOnly_ofOption ha)
  | .block b, h => exact bindsOnly_ofBlock h
  | .whileLoop _ _ b, ⟨_, hb⟩ | .doWhile _ b _, ⟨_, hb⟩ | .withObject _ _ b, ⟨_, hb⟩ | .labeled _ _ b, hb =>
    exact bindsOnly_ofStmt (s := b) hb
  | .forLoop _ i _ _ b, ⟨hi, _, _, hb⟩ => exact bindsOnly_append (bindsOnly_ofInit hi) (bindsOnly_ofStmt hb)
  | .forIn _ r _ b, ⟨hr, _, hb⟩ => exact bindsOnly_append (bindsOnly_ofReceiver hr) (bindsOnly_ofStmt hb)
  | .switch _ _ cs, ⟨_, hcs⟩ => exact bindsOnly_ofCases hcs
  | .tryCatch _ b c f, ⟨hb, hc, hf⟩ =>
    exact bindsOnly_append (bindsOnly_append (bindsOnly_ofBlock hb) (bindsOnly_ofHandler hc)) (bindsOnly_ofBlockOption hf)
  | .expression .., _ | .returnValue .., _ | .breakTo .., _ | .continueTo .., _ | .throwValue .., _
  | .debugger _, _ | .empty _, _ => exact fun d hd => nomatch hd

theorem bindsOnly_ofOption {s : Option Stmt} (h : Stmt.OptionBindsOnly names ranges s) :
    ∀ d ∈ ofOption s, d.BindsOnly names ranges := by
  match s, h with
  | none, _ => exact fun d hd => nomatch hd
  | some s, h => exact bindsOnly_ofStmt h

/-- What a body declares before it runs binds nothing that the body does not bind. -/
theorem bindsOnly_ofBody {b : List Stmt} (h : Stmt.BodyBindsOnly names ranges b) :
    ∀ d ∈ ofBody b, d.BindsOnly names ranges := by
  match b, h with
  | [], _ => exact fun d hd => nomatch hd
  | s :: ss, ⟨_, hs, hss⟩ => exact bindsOnly_append (bindsOnly_ofStmt hs) (bindsOnly_ofBody hss)

theorem bindsOnly_ofBlock {b : Block} (h : b.BindsOnly names ranges) : ∀ d ∈ ofBlock b, d.BindsOnly names ranges := by
  match b, h with
  | .mk _ b, h => exact bindsOnly_ofBody h

theorem bindsOnly_ofBlockOption {b : Option Block} (h : Block.OptionBindsOnly names ranges b) :
    ∀ d ∈ ofBlockOption b, d.BindsOnly names ranges := by
  match b, h with
  | none, _ => exact fun d hd => nomatch hd
  | some b, h => exact bindsOnly_ofBlock h

theorem bindsOnly_ofCases {cs : List Case} (h : Case.AllBindOnly names ranges cs) :
    ∀ d ∈ ofCases cs, d.BindsOnly names ranges := by
  match cs, h with
  | [], _ => exact fun d hd => nomatch hd
  | .mk _ _ b :: cs, ⟨⟨_, hb⟩, hcs⟩ => exact bindsOnly_append (bindsOnly_ofBody hb) (bindsOnly_ofCases hcs)

theorem bindsOnly_ofHandler {c : Option Handler} (h : Handler.OptionBindsOnly names ranges c) :
    ∀ d ∈ ofHandler c, d.BindsOnly names ranges := by
  match c, h with
  | none, _ => exact fun d hd => nomatch hd
  | some (.mk _ _ b), ⟨_, hb⟩ => exact bindsOnly_ofBlock hb

end

theorem bindsOnly_ofBody_body {g : Func} (h : g.BindsOnly names ranges) :
    ∀ d ∈ ofBody g.body, d.BindsOnly names ranges := by
  cases g with
  | mk _ _ _ _ b => exact bindsOnly_ofBody (Block.bindsOnly_body.2 h.2.2)
  | lambda => exact fun d hd => nomatch hd

end Declared

/-! ### Changed bodies -/

section MapBodies

variable {ranges' : Span → Prop} {f : List Stmt → List Stmt} (hr : ∀ s, ranges s → ranges' s)
  (hf : ∀ b, Stmt.BodyBindsOnly names ranges' b → Stmt.BodyBindsOnly names ranges' (f b))

include hr hf

set_option linter.unusedSectionVars false

mutual

theorem Expr.bindsOnly_mapBodies {e : Expr} (h : e.BindsOnly names ranges) : (e.mapBodies f).BindsOnly names ranges' := by
  match e, h with
  | .template _ _ es, h | .array _ es, h | .sequence _ es, h => exact Expr.allBindOnly_mapBodies (l := es) h
  | .place p, h => exact Place.partsBindOnly_mapBodies (p := p) h
  | .update _ _ _ p, h => exact Place.bindsOnly_mapBodies (p := p) h
  | .object _ es, h => exact Entry.allBindOnly_mapBodies (l := es) h
  | .function g, h => exact Func.bindsOnly_mapBodies (g := g) h
  | .unary _ _ e, h => exact Expr.bindsOnly_mapBodies (e := e) h
  | .binary _ _ l r, ⟨hl, hr⟩ | .logical _ _ l r, ⟨hl, hr⟩ =>
    exact ⟨Expr.bindsOnly_mapBodies (e := l) hl, Expr.bindsOnly_mapBodies (e := r) hr⟩
  | .assign _ _ p e, ⟨hp, he⟩ => exact ⟨Place.bindsOnly_mapBodies hp, Expr.bindsOnly_mapBodies he⟩
  | .conditional _ t c a, ⟨ht, hc, ha⟩ =>
    exact ⟨Expr.bindsOnly_mapBodies ht, Expr.bindsOnly_mapBodies hc, Expr.bindsOnly_mapBodies ha⟩
  | .call _ c es, ⟨hc, hes⟩ | .construct _ c es, ⟨hc, hes⟩ =>
    exact ⟨Expr.bindsOnly_mapBodies (e := c) hc, Expr.allBindOnly_mapBodies (l := es) hes⟩
  | .hole, _ | .null _, _ | .bool .., _ | .number .., _ | .string .., _ | .regex .., _ | .this _, _ => trivial

theorem Expr.allBindOnly_mapBodies {l : List Expr} (h : Expr.AllBindOnly names ranges l) :
    Expr.AllBindOnly names ranges' (Expr.mapBodiesList f l) := by
  match l, h with
  | [], _ => trivial
  | e :: es, ⟨he, hes⟩ => exact ⟨Expr.bindsOnly_mapBodies he, Expr.allBindOnly_mapBodies hes⟩

theorem Expr.optionBindsOnly_mapBodies {e : Option Expr} (h : Expr.OptionBindsOnly names ranges e) :
    Expr.OptionBindsOnly names ranges' (Expr.mapBodiesOption f e) := by
  match e, h with
  | none, _ => trivial
  | some e, h => exact Expr.bindsOnly_mapBodies h

theorem Place.partsBindOnly_mapBodies {p : Place} (h : p.PartsBindOnly names ranges) :
    (p.mapBodies f).PartsBindOnly names ranges' := by
  match p, h with
  | .name .., _ => trivial
  | .member _ o _, h => exact Expr.bindsOnly_mapBodies (e := o) h
  | .index _ o k, ⟨ho, hk⟩ => exact ⟨Expr.bindsOnly_mapBodies ho, Expr.bindsOnly_mapBodies hk⟩

theorem Place.bindsOnly_mapBodies {p : Place} (h : p.BindsOnly names ranges) :
    (p.mapBodies f).BindsOnly names ranges' := by
  match p, h with
  | .name .., h => exact h
  | .member _ o _, h => exact Expr.bindsOnly_mapBodies (e := o) h
  | .index _ o k, ⟨ho, hk⟩ => exact ⟨Expr.bindsOnly_mapBodies ho, Expr.bindsOnly_mapBodies hk⟩

theorem Entry.allBindOnly_mapBodies {l : List Entry} (h : Entry.AllBindOnly names ranges l) :
    Entry.AllBindOnly names ranges' (Entry.mapBodiesList f l) := by
  match l, h with
  | [], _ => trivial
  | .mk _ k v :: es, ⟨⟨hk, hv⟩, hes⟩ =>
    exact ⟨⟨Key.bindsOnly_mapBodies hk, Expr.bindsOnly_mapBodies hv⟩, Entry.allBindOnly_mapBodies hes⟩

theorem Key.bindsOnly_mapBodies {k : Key} (h : k.BindsOnly names ranges) : (k.mapBodies f).BindsOnly names ranges' := by
  match k, h with
  | .fixed _, _ => trivial
  | .computed e, h => exact Expr.bindsOnly_mapBodies (e := e) h

theorem Func.bindsOnly_mapBodies {g : Func} (h : g.BindsOnly names ranges) :
    (g.mapBodies f).BindsOnly names ranges' := by
  match g, h with
  | .mk _ _ _ _ b, ⟨hn, hps, hb⟩ => exact ⟨hn, hps, Block.bindsOnly_mapBodies hb⟩
  | .lambda _ _ e, ⟨hps, he⟩ => exact ⟨hps, Expr.bindsOnly_mapBodies he⟩

theorem Block.bindsOnly_mapBodies {b : Block} (h : b.BindsOnly names ranges) :
    (b.mapBodies f).BindsOnly names ranges' := by
  match b, h with
  | .mk _ b, h => exact hf _ (Stmt.bodyBindsOnly_mapBodies h)

theorem Block.optionBindsOnly_mapBodies {b : Option Block} (h : Block.OptionBindsOnly names ranges b) :
    Block.OptionBindsOnly names ranges' (Block.mapBodiesOption f b) := by
  match b, h with
  | none, _ => trivial
  | some b, h => exact Block.bindsOnly_mapBodies h

theorem Declarator.allBindOnly_mapBodies {l : List Declarator} (h : Declarator.AllBindOnly names ranges l) :
    Declarator.AllBindOnly names ranges' (Declarator.mapBodiesList f l) := by
  match l, h with
  | [], _ => trivial
  | .mk _ _ v :: ds, ⟨⟨hn, hv⟩, hds⟩ =>
    exact ⟨⟨hn, Expr.optionBindsOnly_mapBodies hv⟩, Declarator.allBindOnly_mapBodies hds⟩

theorem Case.allBindOnly_mapBodies {cs : List Case} (h : Case.AllBindOnly names ranges cs) :
    Case.AllBindOnly names ranges' (Case.mapBodiesList f cs) := by
  match cs, h with
  | [], _ => trivial
  | .mk _ t b :: cs, ⟨⟨ht, hb⟩, hcs⟩ =>
    exact ⟨⟨Expr.optionBindsOnly_mapBodies ht, hf _ (Stmt.bodyBindsOnly_mapBodies hb)⟩,
      Case.allBindOnly_mapBodies hcs⟩

theorem Handler.optionBindsOnly_mapBodies {h : Option Handler} (hh : Handler.OptionBindsOnly names ranges h) :
    Handler.OptionBindsOnly names ranges' (Handler.mapBodiesOption f h) := by
  match h, hh with
  | none, _ => trivial
  | some (.mk _ _ b), ⟨hn, hb⟩ => exact ⟨hn, Block.bindsOnly_mapBodies hb⟩

theorem Init.bindsOnly_mapBodies {i : Init} (h : i.BindsOnly names ranges) :
    (i.mapBodies f).BindsOnly names ranges' := by
  match i, h with
  | .none, _ => trivial
  | .declare _ ds, h => exact Declarator.allBindOnly_mapBodies (l := ds) h
  | .value e, h => exact Expr.bindsOnly_mapBodies (e := e) h

theorem Receiver.bindsOnly_mapBodies {r : Receiver} (h : r.BindsOnly names ranges) :
    (r.mapBodies f).BindsOnly names ranges' := by
  match r, h with
  | .declare .., h => exact h
  | .place p, h => exact Place.bindsOnly_mapBodies (p := p) h

theorem Stmt.bindsOnly_mapBodies {s : Stmt} (h : s.BindsOnly names ranges) :
    (s.mapBodies f).BindsOnly names ranges' := by
  match s, h with
  | .expression _ e, h | .throwValue _ e, h => exact Expr.bindsOnly_mapBodies (e := e) h
  | .declare _ _ ds, h => exact Declarator.allBindOnly_mapBodies (l := ds) h
  | .function g, h => exact Func.bindsOnly_mapBodies (g := g) h
  | .returnValue _ e, h => exact Expr.optionBindsOnly_mapBodies (e := e) h
  | .branch _ t c a, ⟨ht, hc, ha⟩ =>
    exact ⟨Expr.bindsOnly_mapBodies ht, Stmt.bindsOnly_mapBodies hc, Stmt.optionBindsOnly_mapBodies ha⟩
  | .block b, h => exact Block.bindsOnly_mapBodies (b := b) h
  | .whileLoop _ e b, ⟨he, hb⟩ | .doWhile _ b e, ⟨he, hb⟩ | .withObject _ e b, ⟨he, hb⟩ =>
    exact ⟨Expr.bindsOnly_mapBodies (e := e) he, Stmt.bindsOnly_mapBodies (s := b) hb⟩
  | .forLoop _ i t u b, ⟨hi, ht, hu, hb⟩ =>
    exact ⟨Init.bindsOnly_mapBodies hi, Expr.optionBindsOnly_mapBodies ht, Expr.optionBindsOnly_mapBodies hu,
      Stmt.bindsOnly_mapBodies hb⟩
  | .forIn _ r e b, ⟨hr, he, hb⟩ =>
    exact ⟨Receiver.bindsOnly_mapBodies hr, Expr.bindsOnly_mapBodies he, Stmt.bindsOnly_mapBodies hb⟩
  | .labeled _ _ b, h => exact Stmt.bindsOnly_mapBodies (s := b) h
  | .switch _ e cs, ⟨he, hcs⟩ => exact ⟨Expr.bindsOnly_mapBodies he, Case.allBindOnly_mapBodies hcs⟩
  | .tryCatch _ b h g, ⟨hb, hh, hg⟩ =>
    exact ⟨Block.bindsOnly_mapBodies hb, Handler.optionBindsOnly_mapBodies hh,
      Block.optionBindsOnly_mapBodies hg⟩
  | .breakTo .., _ | .continueTo .., _ | .debugger _, _ | .empty _, _ => trivial

theorem Stmt.bodyBindsOnly_mapBodies {b : List Stmt} (h : Stmt.BodyBindsOnly names ranges b) :
    Stmt.BodyBindsOnly names ranges' (Stmt.mapBodiesList f b) := by
  match b, h with
  | [], _ => trivial
  | s :: ss, ⟨hs, hb, hss⟩ =>
    exact ⟨(Stmt.span_mapBodies f s).symm ▸ hr _ hs, Stmt.bindsOnly_mapBodies hb, Stmt.bodyBindsOnly_mapBodies hss⟩

theorem Stmt.optionBindsOnly_mapBodies {s : Option Stmt} (h : Stmt.OptionBindsOnly names ranges s) :
    Stmt.OptionBindsOnly names ranges' (Stmt.mapBodiesOption f s) := by
  match s, h with
  | none, _ => trivial
  | some s, h => exact Stmt.bindsOnly_mapBodies h

end

/-- A body with changed bodies binds nothing new if the change does not. -/
theorem Stmt.bodyBindsOnly_bodyMap {b : List Stmt} (h : Stmt.BodyBindsOnly names ranges b) :
    Stmt.BodyBindsOnly names ranges' (bodyMap f b) := by
  rw [bodyMap, ← Stmt.mapBodiesList_eq]
  exact hf _ (Stmt.bodyBindsOnly_mapBodies hr hf h)

end MapBodies

/-- More ranges may be allowed. -/
theorem Stmt.bodyBindsOnly_mono {ranges' : Span → Prop} (hr : ∀ s, ranges s → ranges' s) {b : List Stmt}
    (h : Stmt.BodyBindsOnly names ranges b) : Stmt.BodyBindsOnly names ranges' b := by
  have mapped := Stmt.bodyBindsOnly_bodyMap (f := id) hr (fun _ h => h) h
  rwa [bodyMap, Stmt.map_mapBodies_id] at mapped

end ScriptCoverage.Program
