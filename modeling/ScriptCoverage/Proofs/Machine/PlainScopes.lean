import ScriptCoverage.Machine.Access
import ScriptCoverage.Proofs.Machine.Frames

/-!
Plain scopes, which have no object frame. Names are found in them in two ways: `Machine.lookup?` and
`Machine.assign` walk the frames for a binding, and reads and writes of an evaluator go through
`Machine.resolve?`, which can also find a property. Main statement: in a plain scope the two ways agree
(`Machine.plain_names_agree`).
-/

namespace ScriptCoverage.Machine

variable {σ : Type} {m : Machine σ} {scope inner outer : Scope} {r : FrameRef} {name : String}

/-- Whether no frame of a scope is that of an object. -/
def Plain (m : Machine σ) (scope : Scope) : Prop := ∀ r ∈ scope, ∀ v, (m.frame r).kind ≠ .object v

/-- Whether no frame of a scope binds a name. -/
def Unbound (m : Machine σ) (scope : Scope) (name : String) : Prop := ∀ r ∈ scope, m.binding? r name = none

/-- A scope binds a name nowhere, or in some frame first. -/
theorem unbound_or_bound (m : Machine σ) (scope : Scope) (name : String) :
    m.Unbound scope name ∨
      ∃ inner r outer w, scope = inner ++ r :: outer ∧ m.Unbound inner name ∧ m.binding? r name = some w := by
  induction scope with
  | nil => exact .inl fun _ h => absurd h List.not_mem_nil
  | cons s scope ih =>
    cases hs : m.binding? s name with
    | some w => exact .inr ⟨[], s, scope, w, rfl, fun _ h => absurd h List.not_mem_nil, hs⟩
    | none =>
      rcases ih with unbound | ⟨inner, r, outer, w, rfl, unbound, bound⟩
      · exact .inl (List.forall_mem_cons.2 ⟨hs, unbound⟩)
      · exact .inr ⟨s :: inner, r, outer, w, rfl, List.forall_mem_cons.2 ⟨hs, unbound⟩, bound⟩

/-! ### The nearest binding -/

theorem lookup?_of_unbound (h : m.Unbound scope name) : m.lookup? scope name = none := List.findSome?_eq_none_iff.2 h

/-- Frames that do not bind a name are passed over. -/
theorem lookup?_append (h : m.Unbound inner name) : m.lookup? (inner ++ outer) name = m.lookup? outer name := by
  rw [lookup?, List.findSome?_append, List.findSome?_eq_none_iff.2 h]
  rfl

theorem lookup?_cons {w : Value} (h : m.binding? r name = some w) : m.lookup? (r :: outer) name = some w := by
  rw [lookup?, List.findSome?_cons, h]

/-- The frame that a name is bound in is the first one of a scope that binds it, if none before it did. -/
theorem lookup?_bind (there : r.index < m.frames.size) (h : m.Unbound inner name) (v : Value) :
    (m.bind r name v).lookup? (inner ++ r :: outer) name = some v := by
  induction inner with
  | nil => exact lookup?_cons (by rw [binding?_bind there, if_pos ⟨rfl, rfl⟩])
  | cons s inner ih =>
    obtain ⟨hs, rest⟩ := List.forall_mem_cons.1 h
    rw [List.cons_append]
    by_cases same : s = r
    · exact lookup?_cons (by rw [binding?_bind there, if_pos ⟨same, rfl⟩])
    · have passed : (m.bind r name v).binding? s name = none := by
        rw [binding?_bind there, if_neg fun c => same c.1, hs]
      rw [lookup?, List.findSome?_cons, passed]
      exact ih rest

theorem assign_of_unbound (h : m.Unbound scope name) (v : Value) :
    m.assign scope name v = m.bind (rootOf scope) name v := by
  have none : scope.find? (m.isBound · name) = none := by
    rw [List.find?_eq_none]
    intro s hs
    simp [isBound_eq, h s hs]
  rw [assign, none]
  rfl

theorem assign_of_bound {w : Value} (h : m.Unbound inner name) (bound : m.binding? r name = some w) (v : Value) :
    m.assign (inner ++ r :: outer) name v = m.bind r name v := by
  have first : (inner ++ r :: outer).find? (m.isBound · name) = some r := by
    rw [List.find?_eq_some_iff_append]
    exact ⟨by rw [isBound_eq, bound]; rfl, inner, outer, rfl, fun s hs => by simp [isBound_eq, h s hs]⟩
  rw [assign, first]
  rfl

/-! ### Where a name is found -/

theorem Plain.tail (h : m.Plain (r :: scope)) : m.Plain scope := (List.forall_mem_cons.1 h).2

theorem Plain.of_append (h : m.Plain (inner ++ outer)) : m.Plain outer := fun s hs =>
  h s (List.mem_append_right inner hs)

/-- In a plain frame a name is found if it is bound there. -/
theorem resolve?_cons_plain (plain : m.Plain (r :: outer)) (name : String) :
    m.resolve? (r :: outer) name =
      if m.isBound r name then some (.binding (r :: outer)) else m.resolve? outer name := by
  rw [resolve?, resolveWith?]
  split
  · next v kind => exact absurd kind (plain r List.mem_cons_self v)
  · rfl

theorem resolve?_append_plain (plain : m.Plain (inner ++ outer)) (h : m.Unbound inner name) :
    m.resolve? (inner ++ outer) name = m.resolve? outer name := by
  induction inner with
  | nil => rfl
  | cons s inner ih =>
    obtain ⟨hs, rest⟩ := List.forall_mem_cons.1 h
    have passed : m.resolve? (s :: (inner ++ outer)) name = _ := resolve?_cons_plain plain name
    rw [isBound_eq, hs] at passed
    exact passed.trans (ih plain.tail rest)

theorem resolve?_of_unbound (plain : m.Plain scope) (h : m.Unbound scope name) : m.resolve? scope name = none := by
  have whole : m.resolve? (scope ++ []) name = none := resolve?_append_plain (by rwa [List.append_nil]) h
  rwa [List.append_nil] at whole

theorem resolve?_of_bound {w : Value} (plain : m.Plain (inner ++ r :: outer)) (h : m.Unbound inner name)
    (bound : m.binding? r name = some w) : m.resolve? (inner ++ r :: outer) name = some (.binding (r :: outer)) := by
  rw [resolve?_append_plain plain h, resolve?_cons_plain plain.of_append, isBound_eq, bound]
  rfl

/-! ### Reads and writes -/

theorem getName_apply (call : Caller σ) (m : Machine σ) (scope : Scope) (name : String) :
    Run.getName call scope name m = match m.resolve? scope name with
      | some (.binding owner) => .ok ((m.binding? (owner.head?.getD globalFrame) name).getD .undefined) m
      | some (.property w) => Run.getProperty call w name m
      | none => .error (.failed (.unbound name)) m := by
  unfold Run.getName
  change EStateM.bind EStateM.get _ m = _
  dsimp only [EStateM.bind, EStateM.get]
  rcases m.resolve? scope name with - | owner | w <;> rfl

theorem setName_apply (call : Caller σ) (m : Machine σ) (scope : Scope) (name : String) (v : Value) :
    Run.setName call scope name v m = match m.resolve? scope name with
      | some (.binding owner) => .ok () (m.bind (owner.head?.getD globalFrame) name v)
      | some (.property w) => Run.setProperty call w name v m
      | none => .ok () (m.bind globalFrame name v) := by
  unfold Run.setName
  change EStateM.bind EStateM.get _ m = _
  dsimp only [EStateM.bind, EStateM.get]
  rcases m.resolve? scope name with - | owner | w <;> rfl

/-- In a plain scope that ends with the global frame a name is found by reads of an evaluator if it is bound at
all, with the same value; and a write of an evaluator and `Machine.assign` do the same: they give the nearest
binding of the name a value, or the global frame a new binding, change no other binding, and make the value be
found. -/
theorem plain_names_agree (call : Caller σ) (m : Machine σ) (scope : Scope) (name : String) (v : Value)
    (plain : m.Plain scope) (there : ∀ r ∈ scope, r.index < m.frames.size)
    (rooted : scope.getLast? = some globalFrame) :
    ((m.lookup? scope name).isSome ↔ (m.resolve? scope name).isSome) ∧
    (Run.getName call scope name m = match m.lookup? scope name with
      | some w => .ok w m
      | none => .error (.failed (.unbound name)) m) ∧
    Run.setName call scope name v m = .ok () (m.assign scope name v) ∧
    (∃ inner r outer, scope = inner ++ r :: outer ∧ m.Unbound inner name ∧
      ((m.binding? r name).isSome ∨ m.binding? r name = none ∧ r = globalFrame ∧ outer = []) ∧
      m.assign scope name v = m.bind r name v ∧
      ∀ s other, (m.assign scope name v).binding? s other =
        if s = r ∧ other = name then some v else m.binding? s other) ∧
    (m.assign scope name v).lookup? scope name = some v := by
  rcases unbound_or_bound m scope name with unbound | ⟨inner, r, outer, w, rfl, unbound, bound⟩
  · -- Without a binding the write is one of the global frame, which is behind all the others.
    have value := lookup?_of_unbound unbound
    have found := resolve?_of_unbound plain unbound
    have assigned := assign_of_unbound unbound v
    rw [rootOf, rooted, Option.getD_some] at assigned
    obtain ⟨inner, rfl⟩ := List.getLast?_eq_some_iff.1 rooted
    have here : globalFrame.index < m.frames.size := there _ List.mem_concat_self
    have before : m.Unbound inner name := fun s hs => unbound s (List.mem_append_left _ hs)
    have bare : m.binding? globalFrame name = none := unbound _ List.mem_concat_self
    rw [assigned, value, found, getName_apply, setName_apply, found]
    refine ⟨Iff.rfl, rfl, rfl, ⟨inner, globalFrame, [], rfl, before, .inr ⟨bare, rfl, rfl⟩, rfl,
      binding?_bind here name v⟩, lookup?_bind here before v⟩
  · -- The nearest frame that binds the name is written, and its binding is the one that is found before and after.
    have value : m.lookup? (inner ++ r :: outer) name = some w := by
      rw [lookup?_append unbound, lookup?_cons bound]
    have found := resolve?_of_bound plain unbound bound
    have here : r.index < m.frames.size := there r (List.mem_append_right _ List.mem_cons_self)
    rw [assign_of_bound unbound bound, value, found, getName_apply, setName_apply, found]
    refine ⟨Iff.rfl, ?_, rfl, ⟨inner, r, outer, rfl, unbound, .inl ?_, rfl, binding?_bind here name v⟩,
      lookup?_bind here unbound v⟩
    · exact congrArg (fun o : Option Value => EStateM.Result.ok (o.getD .undefined) m) bound
    · rw [bound, Option.isSome_some]

namespace Handler

/-- A machine with the global frame, the frame of a call that has a variable of its own under the same name, and
the frame of a handler in it. -/
def machine : Machine Unit where
  heap := {}
  frames := #[{ kind := .global, bindings := ⟨[("x", .string "outer")]⟩ },
    { kind := .function .undefined, bindings := ⟨[("x", .string "inner")]⟩ },
    { kind := .block, bindings := ⟨[("e", .string "thrown")]⟩ }]
  host := ()

def chain : Scope := [⟨2⟩, ⟨1⟩, globalFrame]

def written : Machine Unit := machine.assign chain "x" (.string "new")

end Handler

open Handler in
/-- A handler changes the variable of the call around it. -/
theorem plain_names_agree_handler :
    Run.getName (fun _ _ _ => return .undefined) chain "x" machine = .ok (.string "inner") machine ∧
    Run.setName (fun _ _ _ => return .undefined) chain "x" (.string "new") machine = .ok () written ∧
    written.lookup? chain "x" = some (.string "new") ∧
    written.binding? globalFrame "x" = some (.string "outer") := by
  have plain : machine.Plain chain := by
    simp only [Plain, chain, List.forall_mem_cons]
    exact ⟨nofun, nofun, nofun, fun _ h => absurd h List.not_mem_nil⟩
  obtain ⟨-, read, write, -, found⟩ := plain_names_agree (fun _ _ _ => return .undefined) machine chain "x"
    (.string "new") plain (by decide) rfl
  exact ⟨read, write, found, by decide⟩

end ScriptCoverage.Machine
