import ScriptCoverage.Source.Script
import ScriptCoverage.Proofs.Source.Lexing

/-!
How a parser gets on in lexemes. A parser sees its text through a `View`, which the reader of the lexemes shows to it;
the parser *runs* from one view to another if it does so for all readers that show the first. The rules for `Runs` and
`Fails` follow the parser's own constructors: `Runs.look`, `Runs.advance` and what is made of them, and then `Runs.bind`
and `Runs.bind_fails`, so that a proof about a parser is a walk along its definition.
-/

namespace ScriptCoverage.Source

/-! ### Views -/

/-- What a parser has in front of it: the lexemes to come, whether it has looked at the first of them, the range of
the last one taken, and where an arrow function may start. -/
structure View where
  ahead : List Lexeme
  looked : Bool
  prev : Span
  arrowAt : Option Nat

/-- The view after a look at the first lexeme. -/
def View.look (v : View) : View := { v with looked := true }

/-- Whether a reader has in front of it what a view tells. Nothing has been noted. -/
structure Reader.Shows (m : Mode) (r : Reader) (v : View) : Prop where
  quiet : r.noted = none
  prev : r.prev = v.prev
  arrowAt : r.arrowAt = v.arrowAt
  looked : v.looked = true → v.ahead ≠ [] → r.cur.isSome = true
  ahead : ∃ ls, Lexes m r.cursor ls ∧ r.cur.toList ++ r.next.toList ++ ls = v.ahead

theorem Lexes.next?_eq {m : Mode} {c : Cursor} {ls : List Lexeme} (h : Lexes m c ls) :
    ∃ c', (∀ noted, Lexeme.next? m ⟨c, noted⟩ = (ls.head?, ⟨c', noted⟩)) ∧ Lexes m c' ls.tail := by
  cases h with
  | stop read ended => exact ⟨_, read, .stop (next?_of_ended ended) ended⟩
  | step read _ behind => exact ⟨_, read, behind⟩

namespace Parser

/-- Whether a parser gets from one view to another with a result, and notes nothing. -/
def Runs {α : Type} (ctx : Context) (p : Parser α) (v : View) (a : α) (v' : View) : Prop :=
  ∀ r : Reader, r.Shows ctx.toMode v → ∃ r', p ctx r = .ok a r' ∧ r'.Shows ctx.toMode v'

theorem bind_of_ok {α β : Type} {p : Parser α} {ctx : Context} {r r' : Reader} {a : α} (h : p ctx r = .ok a r')
    (f : α → Parser β) : (p >>= f) ctx r = f a ctx r' := by
  change EStateM.bind (p ctx) (fun a => f a ctx) r = _
  rw [EStateM.bind, h]

namespace Runs

variable {α β : Type} {ctx : Context} {v v' v₁ : View} {a : α} {b : β}

/-! ### Rules -/

theorem pure (a : α) : Runs ctx (Pure.pure a) v a v := fun r shows => ⟨r, rfl, shows⟩

theorem bind {p : Parser α} {f : α → Parser β} (hp : Runs ctx p v a v₁) (hf : Runs ctx (f a) v₁ b v') :
    Runs ctx (p >>= f) v b v' := by
  intro r shows
  obtain ⟨r₁, run, shows⟩ := hp r shows
  obtain ⟨r', run', shows⟩ := hf r₁ shows
  exact ⟨r', (bind_of_ok run f).trans run', shows⟩

theorem map {p : Parser α} (f : α → β) (hp : Runs ctx p v a v') : Runs ctx (f <$> p) v (f a) v' := by
  intro r shows
  obtain ⟨r', run, shows⟩ := hp r shows
  refine ⟨r', ?_, shows⟩
  change EStateM.map f (p ctx) r = _
  rw [EStateM.map, run]

theorem ifSo {p : Parser Bool} {f h : Parser β} (hp : Runs ctx p v true v₁) (hf : Runs ctx f v₁ b v') :
    Runs ctx (p >>= fun x => if x = true then f else h) v b v' := hp.bind hf

theorem ifNot {p : Parser Bool} {f h : Parser β} (hp : Runs ctx p v false v₁) (hh : Runs ctx h v₁ b v') :
    Runs ctx (p >>= fun x => if x = true then f else h) v b v' := hp.bind hh

theorem look : Runs ctx Parser.look v v.ahead.head? v.look := by
  rintro ⟨⟨c, noted⟩, cur, next, prev, arrowAt, template, commas⟩ ⟨quiet, hprev, harrow, seen, ls, lexes, ahead⟩
  match cur, next with
  | some l, next =>
    rw [← ahead]
    exact ⟨_, rfl, quiet, hprev, harrow, fun _ _ => rfl, ls, lexes, ahead⟩
  | none, some l =>
    rw [← ahead]
    exact ⟨_, rfl, quiet, hprev, harrow, fun _ _ => rfl, ls, lexes, ahead⟩
  | none, none =>
    obtain ⟨c', read, behind⟩ := lexes.next?_eq
    have ahead : v.ahead = ls := ahead.symm
    refine ⟨⟨⟨c', noted⟩, ls.head?, none, prev, arrowAt, template, commas⟩, ?_, quiet, hprev, harrow, fun _ some => ?_,
      ls.tail, behind, ?_⟩
    · rw [Parser.look]
      dsimp only
      rw [read, ahead]
    · exact List.isSome_head?.2 (ahead ▸ some)
    · rw [View.look, ahead]
      cases ls <;> rfl

theorem peek (looked : v.looked = true) : Runs ctx Parser.peek v v.ahead.tail.head? v := by
  rintro ⟨⟨c, noted⟩, cur, next, prev, arrowAt, template, commas⟩ ⟨quiet, hprev, harrow, seen, ls, lexes, ahead⟩
  -- a second lexeme that was looked at before is kept; otherwise it is read now
  match next with
  | some l =>
    match cur with
    | some l' =>
      refine ⟨_, ?_, quiet, hprev, harrow, seen, ls, lexes, ahead⟩
      rw [← ahead]
      rfl
    | none =>
      exact absurd (seen looked (by rw [← ahead]; exact List.cons_ne_nil _ _)) nofun
  | none =>
    obtain ⟨c', read, behind⟩ := lexes.next?_eq
    have here : v.ahead.tail.head? = ls.head? ∧ cur.toList ++ ls = v.ahead := by
      match cur with
      | some l =>
        rw [← ahead]
        exact ⟨rfl, rfl⟩
      | none =>
        have ahead : v.ahead = ls := ahead.symm
        match ls with
        | [] => simp [ahead]
        | l :: ls => exact absurd (seen looked (by simp [ahead])) nofun
    refine ⟨⟨⟨c', noted⟩, cur, ls.head?, prev, arrowAt, template, commas⟩, ?_, quiet, hprev, harrow, seen,
      ls.tail, behind, ?_⟩
    · rw [Parser.peek]
      dsimp only
      rw [read, here.1]
    · rw [← here.2]
      cases ls <;> simp

theorem advance {l : Lexeme} {ls : List Lexeme} {prev : Span} {arrowAt : Option Nat} :
    Runs ctx Parser.advance ⟨l :: ls, true, prev, arrowAt⟩ () ⟨ls, false, l.span, arrowAt⟩ := by
  rintro ⟨⟨c, noted⟩, cur, next, _, _, template, commas⟩ ⟨quiet, hprev, harrow, seen, rest, lexes, ahead⟩
  match cur with
  | some l' =>
    obtain ⟨rfl, behind⟩ : l' = l ∧ next.toList ++ rest = ls := List.cons.inj ahead
    exact ⟨_, rfl, quiet, rfl, harrow, nofun, rest, lexes, behind⟩
  | none => exact absurd (seen rfl (List.cons_ne_nil _ _)) nofun

theorem read : Runs ctx MonadReader.read v ctx v := fun r shows => ⟨r, rfl, shows⟩

theorem get_bind {f : Reader → Parser β}
    (hf : ∀ r : Reader, r.prev = v.prev → r.arrowAt = v.arrowAt → Runs ctx (f r) v b v') :
    Runs ctx (get >>= f) v b v' :=
  fun r shows => hf r shows.prev shows.arrowAt r shows

theorem setArrow (arrowAt : Option Nat) :
    Runs ctx (modify fun r : Reader => { r with arrowAt }) v () { v with arrowAt } := fun r shows =>
  ⟨{ r with arrowAt }, rfl, { shows with arrowAt := rfl }⟩

theorem attempt {p : Parser α} (hp : Runs ctx p v a v') : Runs ctx (Parser.attempt p) v (.ok a) v' := by
  intro r shows
  obtain ⟨r', run, shows⟩ := hp r shows
  exact ⟨r', by rw [Parser.attempt, run], shows⟩

theorem withReader {p : Parser α} {f : Context → Context} (mode : (f ctx).toMode = ctx.toMode)
    (hp : Runs (f ctx) p v a v') : Runs ctx (MonadWithReader.withReader f p) v a v' := by
  intro r shows
  obtain ⟨r', run, shows⟩ := hp r (mode ▸ shows)
  exact ⟨r', run, mode ▸ shows⟩

theorem get_map {f : Reader → α} (hf : ∀ r : Reader, r.prev = v.prev → r.arrowAt = v.arrowAt → f r = a) :
    Runs ctx (f <$> get) v a v := fun r shows =>
  ⟨r, congrArg (EStateM.Result.ok · r) (hf r shows.prev shows.arrowAt), shows⟩

/-! ### Steps -/

theorem atPunct (p : Punct) : Runs ctx (Parser.atPunct p) v (isPunct p v.ahead.head?) v.look := look.map _

theorem atWord (w : String) : Runs ctx (Parser.atWord w) v (isWord w v.ahead.head?) v.look := look.map _

theorem atEnd : Runs ctx Parser.atEnd v v.ahead.head?.isNone v.look := look.map _

theorem here? {γ : Type} (test : Token → Option γ) :
    Runs ctx (Parser.here? test) v (v.ahead.head?.bind (test ·.token)) v.look := look.map _

theorem spanFrom (start : Nat) : Runs ctx (Parser.spanFrom start) v ⟨start, v.prev.stop⟩ v :=
  get_map fun _ prev _ => by rw [prev]

theorem atVariable : Runs ctx Parser.atVariable v (namesVariable ctx.toMode v.ahead.head?) v.look :=
  read.bind (look.map _)

theorem atPunct_of_not {p : Punct} (other : isPunct p v.ahead.head? = false) :
    Runs ctx (Parser.atPunct p) v false v.look := other ▸ atPunct p

theorem atWord_of_not {w : String} (other : isWord w v.ahead.head? = false) :
    Runs ctx (Parser.atWord w) v false v.look := other ▸ atWord w

theorem eat_of_not {p : Punct} (other : isPunct p v.ahead.head? = false) : Runs ctx (Parser.eat p) v false v.look :=
  ifNot (atPunct_of_not other) (pure false)

section Next

variable {l : Lexeme} {ls : List Lexeme} {looked : Bool} {prev : Span} {arrowAt : Option Nat}

theorem eat {p : Punct} (here : isPunct p (some l) = true) :
    Runs ctx (Parser.eat p) ⟨l :: ls, looked, prev, arrowAt⟩ true ⟨ls, false, l.span, arrowAt⟩ := by
  refine (atPunct p).bind ?_
  rw [List.head?_cons, here]
  exact advance.bind (pure true)

theorem expect {p : Punct} (here : isPunct p (some l) = true) :
    Runs ctx (Parser.expect p) ⟨l :: ls, looked, prev, arrowAt⟩ () ⟨ls, false, l.span, arrowAt⟩ :=
  (eat here).bind (pure ())

theorem pos : Runs ctx Parser.pos ⟨l :: ls, looked, prev, arrowAt⟩ l.span.start ⟨l :: ls, true, prev, arrowAt⟩ :=
  look.bind (pure _)

theorem here?_of_none {γ : Type} {test : Token → Option γ} (other : test l.token = none) :
    Runs ctx (Parser.here? test) ⟨l :: ls, looked, prev, arrowAt⟩ none ⟨l :: ls, true, prev, arrowAt⟩ :=
  other ▸ here? test

theorem newlineBefore :
    Runs ctx Parser.newlineBefore ⟨l :: ls, looked, prev, arrowAt⟩ l.newline ⟨l :: ls, true, prev, arrowAt⟩ :=
  look.bind (pure _)

theorem require (valid : l.token.isSimple = true) :
    Runs ctx Parser.require ⟨l :: ls, looked, prev, arrowAt⟩ l ⟨l :: ls, true, prev, arrowAt⟩ := by
  refine look.bind ?_
  dsimp only [List.head?_cons]
  split
  · next invalid =>
    rw [invalid] at valid
    cases valid
  · exact pure l

end Next

end Runs

/-! ### Failures -/

/-- Whether a parser fails from a view. -/
def Fails {α : Type} (ctx : Context) (p : Parser α) (v : View) (f : Failure) : Prop :=
  ∀ r : Reader, r.Shows ctx.toMode v → ∃ r', p ctx r = .error f r'

section Fails

variable {α β : Type} {ctx : Context} {v v₁ : View} {a : α} {f : Failure}

theorem Fails.bind {p : Parser α} (hp : Fails ctx p v f) (next : α → Parser β) : Fails ctx (p >>= next) v f := by
  intro r shows
  obtain ⟨r', fails⟩ := hp r shows
  refine ⟨r', ?_⟩
  change EStateM.bind (p ctx) _ r = _
  rw [EStateM.bind, fails]

theorem Runs.bind_fails {p : Parser α} {next : α → Parser β} (hp : Runs ctx p v a v₁) (hf : Fails ctx (next a) v₁ f) :
    Fails ctx (p >>= next) v f := by
  intro r shows
  obtain ⟨r₁, run, shows⟩ := hp r shows
  obtain ⟨r', fails⟩ := hf r₁ shows
  exact ⟨r', (bind_of_ok run next).trans fails⟩

theorem Fails.require {l : Lexeme} {ls : List Lexeme} {looked : Bool} {prev : Span} {arrowAt : Option Nat}
    (invalid : l.token = .invalid f) : Fails ctx Parser.require ⟨l :: ls, looked, prev, arrowAt⟩ f := by
  refine Runs.look.bind_fails ?_
  dsimp only [List.head?_cons]
  rw [invalid]
  exact Runs.advance.bind_fails fun r _ => ⟨r, rfl⟩

end Fails

end Parser

end ScriptCoverage.Source
