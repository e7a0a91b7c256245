import ScriptCoverage.Program.Lower
import ScriptCoverage.Proofs.Program.Bodies
import ScriptCoverage.Proofs.Source.Children

/-!
Lowering and sequential bodies. Main statement: `Script.lower_mapBodies` — a script with changed bodies lowers
to the program with the same change made in its bodies, and is refused where the script is refused.
-/

namespace ScriptCoverage

/-- A program with a function applied to its sequential bodies, inner bodies first. -/
def Program.mapBodies (f : List Program.Stmt → List Program.Stmt) (p : Program) : Program :=
  { p with body := Program.bodyMap f p.body }

namespace Source

variable {f : List Stmt → List Stmt} {g : List Program.Stmt → List Program.Stmt}

theorem Pat.boundName_mapBodies (p : Pat) : (p.mapBodies f).boundName = p.boundName := by
  cases p with
  | pair k => exact congrArg (unsupported _) (Pat.span_mapBodies f (.pair k _))
  | place e | inner e => exact congrArg (unsupported _) (e.span_mapBodies f)
  | _ => rfl

theorem Pat.boundNames_map (ps : List Pat) : Pat.boundNames (ps.map (Pat.mapBodies f)) = Pat.boundNames ps := by
  induction ps with
  | nil => rfl
  | cons p ps ih => rw [List.map_cons, boundNames, boundName_mapBodies, ih, boundNames]

theorem Pat.mapBodies_ne_hole {p : Pat} (hp : p ≠ .hole) : p.mapBodies f ≠ .hole := by
  cases p with
  | hole => exact absurd rfl hp
  | _ => exact nofun

theorem Handler.lower_of_ne_hole {p : Pat} (hp : p ≠ .hole) (s : Span) (b : Block) :
    (Handler.mk s p b).lower = do
      let name ← p.boundName
      return .mk s (some name) (← b.lower) := by
  cases p with
  | hole => exact absurd rfl hp
  | _ => rfl

/-- A change of the bodies of a tree and the same change of the bodies of a program. -/
def LowersTo (f : List Stmt → List Stmt) (g : List Program.Stmt → List Program.Stmt) : Prop :=
  ∀ b, Stmt.lowerAll (f b) = g <$> Stmt.lowerAll b

section

open Program (Expr.mapBodiesList_eq Entry.mapBodiesList_eq Stmt.mapBodiesList_eq Case.mapBodiesList_eq
  Declarator.mapBodiesList_eq Expr.mapBodiesOption_eq Stmt.mapBodiesOption_eq Block.mapBodiesOption_eq
  Handler.mapBodiesOption_eq)

mutual

theorem Expr.lower_mapBodies (h : LowersTo f g) (e : Expr) :
    (e.mapBodies f).lower = Program.Expr.mapBodies g <$> e.lower := by
  match e with
  | .template s q es =>
    simp [Expr.mapBodies, Expr.lower, Expr.lowerAll_map h es, Program.Expr.mapBodies]
  | .array s es | .sequence s es =>
    simp [Expr.mapBodies, Expr.lower, Expr.lowerAll_map h es, Program.Expr.mapBodies]
  | .object s es => simp [Expr.mapBodies, Expr.lower, Entry.lowerAll_map h es, Program.Expr.mapBodies]
  | .function k => simp [Expr.mapBodies, Expr.lower, Func.lower_mapBodies h k, Program.Expr.mapBodies]
  | .lambda s isAsync ps value =>
    cases isAsync
    · simp [Expr.mapBodies, Expr.lower, Pat.boundNames_map, Expr.lower_mapBodies h value, Program.Expr.mapBodies,
        Program.Func.mapBodies]
    · rfl
  | .unary s op e => simp [Expr.mapBodies, Expr.lower, Expr.lower_mapBodies h e, Program.Expr.mapBodies]
  | .update s op b e => simp [Expr.mapBodies, Expr.lower, Expr.lowerPlace_mapBodies h e, Program.Expr.mapBodies]
  | .operation s (.binary op) l r | .operation s (.logical op) l r =>
    simp [Expr.mapBodies, Expr.lower, Expr.lower_mapBodies h l, Expr.lower_mapBodies h r, Program.Expr.mapBodies]
  | .assign s op t v =>
    simp [Expr.mapBodies, Expr.lower, Pat.lowerTarget_mapBodies h t, Expr.lower_mapBodies h v,
      Program.Expr.mapBodies]
  | .conditional s t c a =>
    simp [Expr.mapBodies, Expr.lower, Expr.lower_mapBodies h t, Expr.lower_mapBodies h c, Expr.lower_mapBodies h a,
      Program.Expr.mapBodies]
  | .call s false c es | .construct s c _ es =>
    simp [Expr.mapBodies, Expr.lower, Expr.lower_mapBodies h c, Expr.lowerAll_map h es, Program.Expr.mapBodies]
  | .member s false o k =>
    simp only [Expr.mapBodies, Expr.lower, Expr.lower_mapBodies h o, Key.lowerAccess_mapBodies h k,
      bind_map_left, map_bind, map_pure, Program.Expr.mapBodies]
  | .paren s e => exact Expr.lower_mapBodies h e
  | .name _ | .this _ | .null _ | .bool .. | .number .. | .bigint .. | .string .. | .regex .. | .tagged ..
  | .classDef .. | .call _ true .. | .superCall .. | .importCall .. | .member _ true .. | .superMember ..
  | .yield .. | .await .. | .newTarget _ | .importMeta _ | .hash _ | .spread .. | .hole => rfl

theorem Expr.lowerAll_map (h : LowersTo f g) (es : List Expr) :
    Expr.lowerAll (es.map (Expr.mapBodies f)) = List.map (Program.Expr.mapBodies g) <$> Expr.lowerAll es := by
  match es with
  | [] => rfl
  | e :: es => simp [Expr.lowerAll, Expr.lower_mapBodies h e, Expr.lowerAll_map h es]

theorem Expr.lowerOption_map (h : LowersTo f g) (e : Option Expr) :
    Expr.lowerOption (e.map (Expr.mapBodies f)) = Option.map (Program.Expr.mapBodies g) <$> Expr.lowerOption e := by
  match e with
  | none => rfl
  | some e => simp [Expr.lowerOption, Expr.lower_mapBodies h e]

theorem Expr.lowerPlace_mapBodies (h : LowersTo f g) (e : Expr) :
    (e.mapBodies f).lowerPlace = Program.Place.mapBodies g <$> e.lowerPlace := by
  match e with
  | .paren _ e => exact Expr.lowerPlace_mapBodies h e
  | .name _ => rfl
  | .member s false o k =>
    simp only [Expr.mapBodies, Expr.lowerPlace, Expr.lower_mapBodies h o, Key.lowerAccess_mapBodies h k,
      bind_map_left, map_bind]
  | .function k => cases k; rfl
  | .this _ | .null _ | .bool .. | .number .. | .bigint .. | .string .. | .regex .. | .tagged .. | .template ..
  | .array .. | .object .. | .lambda .. | .unary .. | .update .. | .operation .. | .assign ..
  | .conditional .. | .construct .. | .sequence ..
  | .classDef .. | .call .. | .superCall .. | .importCall .. | .member _ true .. | .superMember ..
  | .yield .. | .await .. | .newTarget _ | .importMeta _ | .hash _ | .spread .. | .hole => rfl

theorem Key.lowerAccess_mapBodies (h : LowersTo f g) (k : Key) (s : Span) (o : Program.Expr) :
    (k.mapBodies f).lowerAccess s (o.mapBodies g) = Program.Place.mapBodies g <$> k.lowerAccess s o := by
  match k with
  | .computed _ e => simp [Key.mapBodies, Key.lowerAccess, Expr.lower_mapBodies h e, Program.Place.mapBodies]
  | .name _ | .hash _ | .string .. | .number .. | .bigint .. => rfl

theorem Key.lower_mapBodies (h : LowersTo f g) (k : Key) :
    (k.mapBodies f).lower = Program.Key.mapBodies g <$> k.lower := by
  match k with
  | .computed _ e => simp [Key.mapBodies, Key.lower, Expr.lower_mapBodies h e, Program.Key.mapBodies]
  | .name _ | .hash _ | .string .. | .number .. | .bigint .. => rfl

theorem Entry.lower_mapBodies (h : LowersTo f g) (e : Entry) :
    (e.mapBodies f).lower = Program.Entry.mapBodies g <$> e.lower := by
  match e with
  | .pair k v =>
    simp [Entry.mapBodies, Entry.lower, Key.lower_mapBodies h k, Expr.lower_mapBodies h v, Program.Entry.mapBodies]
  | .method _ _ .method k m | .method _ _ .getter k m | .method _ _ .setter k m =>
    simp [Entry.mapBodies, Entry.lower, Key.lower_mapBodies h k, Func.lower_mapBodies h m, Program.Entry.mapBodies,
      Program.Expr.mapBodies]
  | .shorthand _ | .spread .. | .assigned .. | .constructor .. | .field .. | .initializer .. | .empty _ => rfl

theorem Entry.lowerAll_map (h : LowersTo f g) (es : List Entry) :
    Entry.lowerAll (es.map (Entry.mapBodies f)) = List.map (Program.Entry.mapBodies g) <$> Entry.lowerAll es := by
  match es with
  | [] => rfl
  | e :: es => simp [Entry.lowerAll, Entry.lower_mapBodies h e, Entry.lowerAll_map h es]

theorem Pat.lowerTarget_mapBodies (h : LowersTo f g) (p : Pat) :
    (p.mapBodies f).lowerTarget = Program.Place.mapBodies g <$> p.lowerTarget := by
  match p with
  | .place e | .inner e => exact Expr.lowerPlace_mapBodies h e
  | .pair k _ => cases k <;> rfl
  | .name _ | .hole | .array .. | .object .. | .shorthand .. | .init .. | .rest .. => rfl

theorem Pat.lowerDeclarator_mapBodies (h : LowersTo f g) (p : Pat) :
    (p.mapBodies f).lowerDeclarator = Program.Declarator.mapBodies g <$> p.lowerDeclarator := by
  match p with
  | .init s p v =>
    simp [Pat.mapBodies, Pat.lowerDeclarator, Pat.boundName_mapBodies, Expr.lowerOption_map h v,
      Program.Declarator.mapBodies]
  | .pair k _ => cases k <;> rfl
  | .place e | .inner e =>
    simp [Pat.mapBodies, Pat.lowerDeclarator, Pat.boundName, Pat.span, Program.Declarator.mapBodies, unsupported]
  | .name _ | .hole | .array .. | .object .. | .shorthand .. | .rest .. => rfl

theorem Pat.lowerDeclarators_map (h : LowersTo f g) (ps : List Pat) :
    Pat.lowerDeclarators (ps.map (Pat.mapBodies f)) =
      List.map (Program.Declarator.mapBodies g) <$> Pat.lowerDeclarators ps := by
  match ps with
  | [] => rfl
  | p :: ps => simp [Pat.lowerDeclarators, Pat.lowerDeclarator_mapBodies h p, Pat.lowerDeclarators_map h ps]

theorem Func.lower_mapBodies (h : LowersTo f g) (k : Func) :
    (k.mapBodies f).lower = Program.Func.mapBodies g <$> k.lower := by
  match k with
  | .mk s kind n isAsync isGenerator ps b =>
    cases isGenerator <;> cases isAsync <;> try rfl
    simp [Func.mapBodies, Func.lower, Pat.boundNames_map, Block.lower_mapBodies h b, Program.Func.mapBodies]

theorem Block.lower_mapBodies (h : LowersTo f g) (b : Block) :
    (b.mapBodies f).lower = Program.Block.mapBodies g <$> b.lower := by
  match b with
  | .mk s b => simp [Block.mapBodies, Block.lower, h _, Stmt.lowerAll_map h b, Program.Block.mapBodies]

theorem Block.lowerOption_map (h : LowersTo f g) (b : Option Block) :
    Block.lowerOption (b.map (Block.mapBodies f)) = Option.map (Program.Block.mapBodies g) <$> Block.lowerOption b := by
  match b with
  | none => rfl
  | some b => simp [Block.lowerOption, Block.lower_mapBodies h b]

theorem Case.lowerAll_map (h : LowersTo f g) (cs : List Case) :
    Case.lowerAll (cs.map (Case.mapBodies f)) = List.map (Program.Case.mapBodies g) <$> Case.lowerAll cs := by
  match cs with
  | [] => rfl
  | .mk s t b :: cs =>
    simp [Case.lowerAll, Case.mapBodies, Case.lower, h _, Expr.lowerOption_map h t, Stmt.lowerAll_map h b,
      Program.Case.mapBodies, Case.lowerAll_map h cs]

theorem Handler.lower_mapBodies (h : LowersTo f g) (k : Handler) :
    (k.mapBodies f).lower = Program.Handler.mapBodies g <$> k.lower := by
  match k with
  | .mk s p b =>
    by_cases hp : p = .hole
    · subst hp
      simp [Handler.mapBodies, Handler.lower, Pat.mapBodies, Block.lower_mapBodies h b, Program.Handler.mapBodies]
    · rw [Handler.lower_of_ne_hole hp, Handler.mapBodies, Handler.lower_of_ne_hole (Pat.mapBodies_ne_hole hp)]
      simp [Pat.boundName_mapBodies, Block.lower_mapBodies h b, Program.Handler.mapBodies]

theorem Handler.lowerOption_map (h : LowersTo f g) (k : Option Handler) :
    Handler.lowerOption (k.map (Handler.mapBodies f)) =
      Option.map (Program.Handler.mapBodies g) <$> Handler.lowerOption k := by
  match k with
  | none => rfl
  | some k => simp [Handler.lowerOption, Handler.lower_mapBodies h k]

theorem Head.lowerInit_mapBodies (h : LowersTo f g) (k : Head) :
    (k.mapBodies f).lowerInit = Program.Init.mapBodies g <$> k.lowerInit := by
  match k with
  | .none => rfl
  | .declare _ _ ds => simp [Head.mapBodies, Head.lowerInit, Pat.lowerDeclarators_map h ds, Program.Init.mapBodies]
  | .value e => simp [Head.mapBodies, Head.lowerInit, Expr.lower_mapBodies h e, Program.Init.mapBodies]
  | .target p => exact congrArg (unsupported _) (p.span_mapBodies f)

theorem Head.lowerReceiver_mapBodies (h : LowersTo f g) (k : Head) :
    (k.mapBodies f).lowerReceiver = Program.Receiver.mapBodies g <$> k.lowerReceiver := by
  match k with
  | .declare _ _ [.init _ p none] =>
    simp [Head.mapBodies, Head.lowerReceiver, Pat.mapBodies, Pat.boundName_mapBodies, Program.Receiver.mapBodies]
  | .target (.place e) | .target (.inner e) | .value e =>
    simp [Head.mapBodies, Head.lowerReceiver, Pat.mapBodies, Expr.lowerPlace_mapBodies h e,
      Program.Receiver.mapBodies]
  | .target (.pair k _) => cases k <;> rfl
  | .declare _ _ (p :: _ :: _) =>
    cases p with
    | init _ _ v => cases v <;> rfl
    | _ => rfl
  | .declare _ _ [] | .declare _ _ [.init _ _ (some _)] | .declare _ _ [.name _]
  | .declare _ _ [.hole] | .declare _ _ [.array ..] | .declare _ _ [.object ..] | .declare _ _ [.pair ..]
  | .declare _ _ [.shorthand ..] | .declare _ _ [.rest ..] | .declare _ _ [.place _] | .declare _ _ [.inner _]
  | .none | .target (.name _) | .target .hole | .target (.array ..) | .target (.object ..)
  | .target (.shorthand ..) | .target (.init ..) | .target (.rest ..) => rfl

theorem Stmt.lower_mapBodies (h : LowersTo f g) (s : Stmt) :
    (s.mapBodies f).lower = Program.Stmt.mapBodies g <$> s.lower := by
  match s with
  | .expression _ e | .throwValue _ e =>
    simp [Stmt.mapBodies, Stmt.lower, Expr.lower_mapBodies h e, Program.Stmt.mapBodies]
  | .block b => simp [Stmt.mapBodies, Stmt.lower, Block.lower_mapBodies h b, Program.Stmt.mapBodies]
  | .withObject _ e b | .whileLoop _ e b | .doWhile _ b e =>
    simp [Stmt.mapBodies, Stmt.lower, Expr.lower_mapBodies h e, Stmt.lower_mapBodies h b, Program.Stmt.mapBodies]
  | .returnValue _ e => simp [Stmt.mapBodies, Stmt.lower, Expr.lowerOption_map h e, Program.Stmt.mapBodies]
  | .labeled _ _ b => simp [Stmt.mapBodies, Stmt.lower, Stmt.lower_mapBodies h b, Program.Stmt.mapBodies]
  | .branch _ t c a =>
    simp [Stmt.mapBodies, Stmt.lower, Expr.lower_mapBodies h t, Stmt.lower_mapBodies h c, Stmt.lowerOption_map h a,
      Program.Stmt.mapBodies]
  | .switch _ e cs =>
    simp [Stmt.mapBodies, Stmt.lower, Expr.lower_mapBodies h e, Case.lowerAll_map h cs, Program.Stmt.mapBodies]
  | .tryCatch _ b c k =>
    simp [Stmt.mapBodies, Stmt.lower, Block.lower_mapBodies h b, Handler.lowerOption_map h c,
      Block.lowerOption_map h k, Program.Stmt.mapBodies]
  | .forLoop _ i t u b =>
    simp [Stmt.mapBodies, Stmt.lower, Head.lowerInit_mapBodies h i, Expr.lowerOption_map h t,
      Expr.lowerOption_map h u, Stmt.lower_mapBodies h b, Program.Stmt.mapBodies]
  | .forIn _ k e b =>
    simp [Stmt.mapBodies, Stmt.lower, Head.lowerReceiver_mapBodies h k, Expr.lower_mapBodies h e,
      Stmt.lower_mapBodies h b, Program.Stmt.mapBodies]
  | .declare _ _ ds => simp [Stmt.mapBodies, Stmt.lower, Pat.lowerDeclarators_map h ds, Program.Stmt.mapBodies]
  | .function k => simp [Stmt.mapBodies, Stmt.lower, Func.lower_mapBodies h k, Program.Stmt.mapBodies]
  | .empty _ | .debugger _ | .breakTo .. | .continueTo .. | .forOf .. | .classDef .. => rfl

theorem Stmt.lowerAll_map (h : LowersTo f g) (ss : List Stmt) :
    Stmt.lowerAll (ss.map (Stmt.mapBodies f)) = List.map (Program.Stmt.mapBodies g) <$> Stmt.lowerAll ss := by
  match ss with
  | [] => rfl
  | s :: ss => simp [Stmt.lowerAll, Stmt.lower_mapBodies h s, Stmt.lowerAll_map h ss]

theorem Stmt.lowerOption_map (h : LowersTo f g) (s : Option Stmt) :
    Stmt.lowerOption (s.map (Stmt.mapBodies f)) = Option.map (Program.Stmt.mapBodies g) <$> Stmt.lowerOption s := by
  match s with
  | none => rfl
  | some s => simp [Stmt.lowerOption, Stmt.lower_mapBodies h s]

end

end

/-- A script with changed bodies lowers to the program with the same change in its bodies. -/
theorem Script.lower_mapBodies (h : LowersTo f g) (t : Script) :
    (t.mapBodies f).lower = Program.mapBodies g <$> t.lower := by
  simp [Script.mapBodies, Script.lower, h _, Stmt.lowerAll_map h t.body, Program.mapBodies, Program.bodyMap]

end Source

end ScriptCoverage
