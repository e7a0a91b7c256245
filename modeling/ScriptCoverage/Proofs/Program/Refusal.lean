import ScriptCoverage.Program.Lower

/-!
Why a script is not lowered. Main statement: `Script.onlyRefuses_lower` — the only fault of lowering is a form
that it does not support, which it names together with an offset.
-/

namespace ScriptCoverage.Source

/-- Whether a result can be no other fault than a form that is not supported. -/
def OnlyRefuses {α : Type} (x : Except ParseError α) : Prop :=
  ∀ fault, x = .error fault → ∃ construct offset, fault = .unsupported construct offset

namespace OnlyRefuses

variable {α β : Type} {x : Except ParseError α}

theorem ok (a : α) : OnlyRefuses (.ok a) := nofun

theorem unsupported (construct : String) (s : Span) : OnlyRefuses (Source.unsupported (α := α) construct s) :=
  fun _ h => ⟨construct, s.start, (Except.error.inj h).symm⟩

theorem bind (hx : OnlyRefuses x) {f : α → Except ParseError β} (hf : ∀ a, OnlyRefuses (f a)) :
    OnlyRefuses (x >>= f) := by
  cases x with
  | ok a => exact hf a
  | error fault =>
    obtain ⟨construct, offset, rfl⟩ := hx fault rfl
    exact fun _ h => ⟨construct, offset, (Except.error.inj h).symm⟩

theorem bind_ok (hx : OnlyRefuses x) (f : α → β) : OnlyRefuses (do return f (← x)) := hx.bind fun a => .ok (f a)

end OnlyRefuses

theorem Pat.onlyRefuses_boundName (p : Pat) : OnlyRefuses p.boundName := by
  cases p with
  | name n => exact .ok n.text
  | _ => exact .unsupported _ _

theorem Pat.onlyRefuses_boundNames (ps : List Pat) : OnlyRefuses (Pat.boundNames ps) := by
  induction ps with
  | nil => exact .ok []
  | cons p ps ih => exact p.onlyRefuses_boundName.bind fun _ => ih.bind_ok _

theorem Quasi.onlyRefuses_values (qs : List Quasi) : OnlyRefuses (Quasi.values qs) := by
  induction qs with
  | nil => exact .ok []
  | cons q qs ih =>
    rw [Quasi.values]
    split
    · exact ih.bind_ok _
    · exact .unsupported _ _

mutual

theorem Expr.onlyRefuses_lower (e : Expr) : OnlyRefuses e.lower := by
  match e with
  | .name _ | .this _ | .null _ | .bool .. | .number .. | .string .. | .regex .. | .hole => exact .ok _
  | .bigint .. | .tagged .. | .lambda _ true .. | .classDef .. | .call _ true .. | .superCall .. | .importCall ..
  | .member _ true .. | .superMember .. | .yield .. | .await .. | .newTarget _ | .importMeta _ | .hash _
  | .spread .. => exact .unsupported _ _
  | .template _ quasis es =>
    exact (Quasi.onlyRefuses_values quasis).bind fun _ => (Expr.onlyRefuses_lowerAll es).bind_ok _
  | .array _ es | .sequence _ es => exact (Expr.onlyRefuses_lowerAll es).bind_ok _
  | .object _ es => exact (Entry.onlyRefuses_lowerAll es).bind_ok _
  | .function f => exact f.onlyRefuses_lower.bind_ok _
  | .lambda _ false ps value =>
    exact (Pat.onlyRefuses_boundNames ps).bind fun _ => value.onlyRefuses_lower.bind_ok _
  | .unary _ _ e => exact e.onlyRefuses_lower.bind_ok _
  | .update _ _ _ e => exact e.onlyRefuses_lowerPlace.bind_ok _
  | .operation _ (.binary _) l r | .operation _ (.logical _) l r =>
    exact l.onlyRefuses_lower.bind fun _ => r.onlyRefuses_lower.bind_ok _
  | .assign _ _ t v => exact t.onlyRefuses_lowerTarget.bind fun _ => v.onlyRefuses_lower.bind_ok _
  | .conditional _ t c a =>
    exact t.onlyRefuses_lower.bind fun _ => c.onlyRefuses_lower.bind fun _ => a.onlyRefuses_lower.bind_ok _
  | .call _ false c es | .construct _ c _ es =>
    exact c.onlyRefuses_lower.bind fun _ => (Expr.onlyRefuses_lowerAll es).bind_ok _
  | .member s false o k =>
    exact o.onlyRefuses_lower.bind fun object => (k.onlyRefuses_lowerAccess s object).bind_ok _
  | .paren _ e => exact e.onlyRefuses_lower

theorem Expr.onlyRefuses_lowerAll (es : List Expr) : OnlyRefuses (Expr.lowerAll es) := by
  match es with
  | [] => exact .ok []
  | e :: es => exact e.onlyRefuses_lower.bind fun _ => (Expr.onlyRefuses_lowerAll es).bind_ok _

theorem Expr.onlyRefuses_lowerOption (e : Option Expr) : OnlyRefuses (Expr.lowerOption e) := by
  match e with
  | none => exact .ok none
  | some e => exact e.onlyRefuses_lower.bind_ok _

theorem Expr.onlyRefuses_lowerPlace (e : Expr) : OnlyRefuses e.lowerPlace := by
  match e with
  | .paren _ e => exact e.onlyRefuses_lowerPlace
  | .name _ => exact .ok _
  | .member s false o k => exact o.onlyRefuses_lower.bind fun object => k.onlyRefuses_lowerAccess s object
  | .this _ | .null _ | .bool .. | .number .. | .bigint .. | .string .. | .regex .. | .tagged .. | .template ..
  | .array .. | .object .. | .function _ | .lambda .. | .unary .. | .update .. | .operation .. | .assign ..
  | .conditional .. | .construct .. | .sequence .. | .classDef .. | .call .. | .superCall .. | .importCall ..
  | .member _ true .. | .superMember .. | .yield .. | .await .. | .newTarget _ | .importMeta _ | .hash _
  | .spread .. | .hole => exact .unsupported _ _

theorem Key.onlyRefuses_lowerAccess (k : Key) (s : Span) (object : Program.Expr) :
    OnlyRefuses (k.lowerAccess s object) := by
  match k with
  | .name _ => exact .ok _
  | .computed _ e => exact e.onlyRefuses_lower.bind_ok _
  | .hash _ | .string .. | .number .. | .bigint .. => exact .unsupported _ _

theorem Key.onlyRefuses_lower (k : Key) : OnlyRefuses k.lower := by
  match k with
  | .name _ | .string .. | .number .. => exact .ok _
  | .computed _ e => exact e.onlyRefuses_lower.bind_ok _
  | .bigint .. | .hash _ => exact .unsupported _ _

theorem Entry.onlyRefuses_lower (e : Entry) : OnlyRefuses e.lower := by
  match e with
  | .shorthand _ => exact .ok _
  | .pair k v => exact k.onlyRefuses_lower.bind fun _ => v.onlyRefuses_lower.bind_ok _
  | .method _ _ .method k f | .method _ _ .getter k f | .method _ _ .setter k f =>
    exact k.onlyRefuses_lower.bind fun _ => f.onlyRefuses_lower.bind_ok _
  | .spread .. | .assigned .. | .constructor .. | .field .. | .initializer .. | .empty _ => exact .unsupported _ _

theorem Entry.onlyRefuses_lowerAll (es : List Entry) : OnlyRefuses (Entry.lowerAll es) := by
  match es with
  | [] => exact .ok []
  | e :: es => exact e.onlyRefuses_lower.bind fun _ => (Entry.onlyRefuses_lowerAll es).bind_ok _

theorem Pat.onlyRefuses_lowerTarget (p : Pat) : OnlyRefuses p.lowerTarget := by
  match p with
  | .name _ => exact .ok _
  | .place e | .inner e => exact e.onlyRefuses_lowerPlace
  | .hole | .array .. | .object .. | .pair .. | .shorthand .. | .init .. | .rest .. => exact .unsupported _ _

theorem Pat.onlyRefuses_lowerDeclarator (p : Pat) : OnlyRefuses p.lowerDeclarator := by
  match p with
  | .init _ p v => exact p.onlyRefuses_boundName.bind fun _ => (Expr.onlyRefuses_lowerOption v).bind_ok _
  | .name _ | .hole | .array .. | .object .. | .pair .. | .shorthand .. | .rest .. | .place _ | .inner _ =>
    exact (Pat.onlyRefuses_boundName _).bind_ok _

theorem Pat.onlyRefuses_lowerDeclarators (ps : List Pat) : OnlyRefuses (Pat.lowerDeclarators ps) := by
  match ps with
  | [] => exact .ok []
  | p :: ps => exact p.onlyRefuses_lowerDeclarator.bind fun _ => (Pat.onlyRefuses_lowerDeclarators ps).bind_ok _

theorem Func.onlyRefuses_lower (f : Func) : OnlyRefuses f.lower := by
  match f with
  | .mk _ _ _ _ true .. | .mk _ _ _ true false .. => exact .unsupported _ _
  | .mk _ _ _ false false ps b =>
    exact (Pat.onlyRefuses_boundNames ps).bind fun _ => b.onlyRefuses_lower.bind_ok _

theorem Block.onlyRefuses_lower (b : Block) : OnlyRefuses b.lower := by
  match b with
  | .mk _ b => exact (Stmt.onlyRefuses_lowerAll b).bind_ok _

theorem Block.onlyRefuses_lowerOption (b : Option Block) : OnlyRefuses (Block.lowerOption b) := by
  match b with
  | none => exact .ok none
  | some b => exact b.onlyRefuses_lower.bind_ok _

theorem Case.onlyRefuses_lowerAll (cs : List Case) : OnlyRefuses (Case.lowerAll cs) := by
  match cs with
  | [] => exact .ok []
  | .mk s t b :: cs =>
    have clause : OnlyRefuses (Case.mk s t b).lower :=
      (Expr.onlyRefuses_lowerOption t).bind fun _ => (Stmt.onlyRefuses_lowerAll b).bind_ok _
    exact clause.bind fun _ => (Case.onlyRefuses_lowerAll cs).bind_ok _

theorem Handler.onlyRefuses_lower (h : Handler) : OnlyRefuses h.lower := by
  match h with
  | .mk _ .hole b => exact b.onlyRefuses_lower.bind_ok _
  | .mk _ (.name _) b | .mk _ (.array ..) b | .mk _ (.object ..) b | .mk _ (.pair ..) b | .mk _ (.shorthand ..) b
  | .mk _ (.init ..) b | .mk _ (.rest ..) b | .mk _ (.place _) b | .mk _ (.inner _) b =>
    exact (Pat.onlyRefuses_boundName _).bind fun _ => b.onlyRefuses_lower.bind_ok _

theorem Handler.onlyRefuses_lowerOption (h : Option Handler) : OnlyRefuses (Handler.lowerOption h) := by
  match h with
  | none => exact .ok none
  | some h => exact h.onlyRefuses_lower.bind_ok _

theorem Head.onlyRefuses_lowerInit (h : Head) : OnlyRefuses h.lowerInit := by
  match h with
  | .none => exact .ok _
  | .declare _ _ ds => exact (Pat.onlyRefuses_lowerDeclarators ds).bind_ok _
  | .value e => exact e.onlyRefuses_lower.bind_ok _
  | .target _ => exact .unsupported _ _

theorem Head.onlyRefuses_lowerReceiver (h : Head) : OnlyRefuses h.lowerReceiver := by
  match h with
  | .target (.name _) => exact .ok _
  | .target (.place e) | .target (.inner e) | .value e => exact e.onlyRefuses_lowerPlace.bind_ok _
  | .declare _ _ [.init _ p none] => exact p.onlyRefuses_boundName.bind_ok _
  | .declare _ _ (p :: _ :: _) =>
    cases p with
    | init _ _ v => cases v <;> exact .unsupported _ _
    | _ => exact .unsupported _ _
  | .declare _ _ [] | .declare _ _ [.init _ _ (some _)] | .declare _ _ [.name _]
  | .declare _ _ [.hole] | .declare _ _ [.array ..] | .declare _ _ [.object ..] | .declare _ _ [.pair ..]
  | .declare _ _ [.shorthand ..] | .declare _ _ [.rest ..] | .declare _ _ [.place _] | .declare _ _ [.inner _]
  | .none | .target .hole | .target (.array ..) | .target (.object ..) | .target (.pair ..)
  | .target (.shorthand ..) | .target (.init ..) | .target (.rest ..) =>
    exact .unsupported _ _

theorem Stmt.onlyRefuses_lower (s : Stmt) : OnlyRefuses s.lower := by
  match s with
  | .empty _ | .debugger _ | .breakTo .. | .continueTo .. => exact .ok _
  | .forOf .. | .classDef .. => exact .unsupported _ _
  | .expression _ e | .throwValue _ e => exact e.onlyRefuses_lower.bind_ok _
  | .block b => exact b.onlyRefuses_lower.bind_ok _
  | .withObject _ e b | .whileLoop _ e b => exact e.onlyRefuses_lower.bind fun _ => b.onlyRefuses_lower.bind_ok _
  | .doWhile _ b e => exact b.onlyRefuses_lower.bind fun _ => e.onlyRefuses_lower.bind_ok _
  | .returnValue _ e => exact (Expr.onlyRefuses_lowerOption e).bind_ok _
  | .labeled _ _ b => exact b.onlyRefuses_lower.bind_ok _
  | .branch _ t c a =>
    exact t.onlyRefuses_lower.bind fun _ => c.onlyRefuses_lower.bind fun _ => (Stmt.onlyRefuses_lowerOption a).bind_ok _
  | .switch _ e cs => exact e.onlyRefuses_lower.bind fun _ => (Case.onlyRefuses_lowerAll cs).bind_ok _
  | .tryCatch _ b h f =>
    exact b.onlyRefuses_lower.bind fun _ =>
      (Handler.onlyRefuses_lowerOption h).bind fun _ => (Block.onlyRefuses_lowerOption f).bind_ok _
  | .forLoop _ i t u b =>
    exact i.onlyRefuses_lowerInit.bind fun _ => (Expr.onlyRefuses_lowerOption t).bind fun _ =>
      (Expr.onlyRefuses_lowerOption u).bind fun _ => b.onlyRefuses_lower.bind_ok _
  | .forIn _ h e b =>
    exact h.onlyRefuses_lowerReceiver.bind fun _ => e.onlyRefuses_lower.bind fun _ => b.onlyRefuses_lower.bind_ok _
  | .declare _ _ ds => exact (Pat.onlyRefuses_lowerDeclarators ds).bind_ok _
  | .function f => exact f.onlyRefuses_lower.bind_ok _

theorem Stmt.onlyRefuses_lowerAll (ss : List Stmt) : OnlyRefuses (Stmt.lowerAll ss) := by
  match ss with
  | [] => exact .ok []
  | s :: ss => exact s.onlyRefuses_lower.bind fun _ => (Stmt.onlyRefuses_lowerAll ss).bind_ok _

theorem Stmt.onlyRefuses_lowerOption (s : Option Stmt) : OnlyRefuses (Stmt.lowerOption s) := by
  match s with
  | none => exact .ok none
  | some s => exact s.onlyRefuses_lower.bind_ok _

end

/-- A script that is not lowered holds a form that is not supported. -/
theorem Script.onlyRefuses_lower (t : Script) : OnlyRefuses t.lower := (Stmt.onlyRefuses_lowerAll t.body).bind_ok _

end ScriptCoverage.Source
