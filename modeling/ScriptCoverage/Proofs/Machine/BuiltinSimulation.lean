import ScriptCoverage.Proofs.Machine.AccessSimulation

/-!
Functions that are there from the start, in runs side by side. Main statement: `Same.builtin` — if calls end in
the same way, so do they.
-/

namespace ScriptCoverage.Machine.Simulation

variable {σ σ' : Type} {T : Simulation σ σ'} {call : Caller σ} {call' : Caller σ'}

/-! ### Arrays -/

theorem Same.callEach (hc : T.SameCalls call call') (callback this : Value) (r : ArrayRef) (i : Nat)
    (vs : List Value) :
    T.Same (Run.callEach call callback this r i vs) (Run.callEach call' callback this r i vs) := by
  induction vs generalizing i with
  | nil => exact .pure _
  | cons v vs ih => exact Same.bind (hc callback this _) fun result => Same.bind (ih (i + 1)) fun _ => .pure rfl

theorem Same.onArray (hc : T.SameCalls call call') (r : ArrayRef) (args : List Value) (m : ArrayMethod) :
    T.Same (Run.onArray call r args m) (Run.onArray call' r args m) := by
  cases m with
  | push => exact Same.bind (.modifyArray r _) fun _ => Same.bind (.see fun h => rfl) fun _ => .pure rfl
  | pop => exact Same.bind (.see fun h => rfl) fun _ => Same.bind (.modifyArray r _) fun _ => .pure rfl
  | shift => exact Same.bind (.see fun h => rfl) fun _ => Same.bind (.modifyArray r _) fun _ => .pure rfl
  | join | indexOf =>
    unfold Run.onArray
    refine .see fun h => ?_
    simp
  | slice => exact Same.bind (.see fun h => by simp) fun items => Same.newArray items
  | concat =>
    refine Same.bind (.see fun h => ?_) fun items => Same.newArray items
    rw [T.array_heap, funext (T.spread_heap h)]
  | forEach => exact Same.bind (.see fun h => rfl) fun items => Same.bind (.callEach hc _ _ r 0 items) fun _ => .pure rfl
  | map =>
    exact Same.bind (.see fun h => rfl) fun items => Same.bind (.callEach hc _ _ r 0 items) fun vs => Same.newArray vs
  | filter =>
    refine Same.bind (.see fun h => rfl) fun items => ?_
    exact Same.bind (.callEach hc _ _ r 0 items) fun results => Same.newArray _

theorem Same.arrayMethod (hc : T.SameCalls call call') (m : ArrayMethod) (this : Value) (args : List Value) :
    T.Same (Run.arrayMethod call m this args) (Run.arrayMethod call' m this args) := by
  cases this with
  | array r => exact .onArray hc r args m
  | _ => exact Follows.refuse _

/-! ### Texts -/

theorem Same.matchesOf (pattern : Value) (text : String) :
    T.Same (Run.matchesOf pattern text) (Run.matchesOf pattern text) := by
  cases pattern with
  | regex r =>
    refine Same.bind (.see fun h => T.regex_heap h r) fun x => ?_
    split
    · exact Same.bind (.setLastIndex r 0) fun _ => .pure rfl
    · exact .pure rfl
  | _ => exact Same.bind (.see fun h => T.text_heap h _) fun _ => .pure rfl

theorem Same.replacementOf (hc : T.SameCalls call call') (text : String) (replacement : Value) (m : Match) :
    T.Same (Run.replacementOf call text replacement m) (Run.replacementOf call' text replacement m) := by
  unfold Run.replacementOf
  split
  · exact Same.bind (hc _ _ _) fun v => Same.see fun h => T.text_heap h v
  · exact Same.bind (.see fun h => T.text_heap h _) fun _ => .pure rfl

theorem Same.splice (text : String) {replaced : Match → Run σ String} {replaced' : Match → Run σ' String}
    (h : ∀ m, T.Same (replaced m) (replaced' m)) (start : Nat) (ms : List Match) :
    T.Same (Run.splice text replaced start ms) (Run.splice text replaced' start ms) := by
  induction ms generalizing start with
  | nil => exact .pure _
  | cons m ms ih => exact Same.bind (h m) fun new => Same.bind (ih m.span.stop) fun rest => .pure rfl

theorem Same.replace (hc : T.SameCalls call call') (text : String) (pattern replacement : Value) :
    T.Same (Run.replace call text pattern replacement) (Run.replace call' text pattern replacement) :=
  Same.bind (.matchesOf pattern text) fun ms => Same.splice text (Same.replacementOf hc text replacement) 0 ms

theorem Same.splitText (text : String) (separator : Value) :
    T.Same (Run.splitText text separator) (Run.splitText text separator) := by
  have separated (v : Value) : T.Same (do
      let separator ← Run.see (σ := σ) (·.text v)
      if separator = "" then return (Text.unitsOf text.toList).map fun u => Text.ofUnits [u]
      else return (Text.splitBy separator.toList text.toList).map String.ofList) (do
      let separator ← Run.see (·.text v)
      if separator = "" then return (Text.unitsOf text.toList).map fun u => Text.ofUnits [u]
      else return (Text.splitBy separator.toList text.toList).map String.ofList) := by
    refine Same.bind (.see fun h => T.text_heap h v) fun s => ?_
    split
    · exact .pure rfl
    · exact .pure rfl
  cases separator with
  | undefined => exact .pure _
  | regex r => exact Same.bind (.see fun h => T.regex_heap h r) fun x => .pure rfl
  | _ => exact separated _

theorem Same.onText (hc : T.SameCalls call call') (text : String) (args : List Value) (m : StringMethod) :
    T.Same (Run.onText call text args m) (Run.onText call' text args m) := by
  cases m with
  | toString | toUpperCase | toLowerCase | trim => exact .pure _
  | charAt | charCodeAt | indexOf | slice | substring =>
    unfold Run.onText
    refine .see fun h => ?_
    simp
  | split =>
    refine Same.bind (.splitText text _) fun parts => ?_
    cases Value.argument args 1 with
    | undefined => exact Same.newArray _
    | _ => exact Same.bind (.see fun h => T.uint32_heap h _) fun _ => Same.newArray _
  | replace => exact Same.bind (.replace hc text _ _) fun _ => .pure rfl

theorem Same.stringMethod (hc : T.SameCalls call call') (m : StringMethod) (this : Value) (args : List Value) :
    T.Same (Run.stringMethod call m this args) (Run.stringMethod call' m this args) := by
  unfold Run.stringMethod
  split
  · exact Follows.refuse _
  · exact Same.bind (.see fun h => T.text_heap h this) fun text => Same.onText hc text args m

/-! ### Functions and numbers -/

theorem Same.argumentList (v : Value) : T.Same (Run.argumentList v) (Run.argumentList v) := by
  cases v with
  | undefined | null => exact .pure _
  | array r =>
    unfold Run.argumentList
    exact .see fun h => rfl
  | _ => exact Follows.refuse _

theorem Same.bindFunction (target : Value) (args : List Value) :
    T.Same (Run.bindFunction target args) (Run.bindFunction target args) := by
  cases target with
  | function r =>
    refine Same.bind (.see fun h => by rw [T.function_heap]; rfl) fun name => ?_
    exact Same.newFunction (f := { name := "bound " ++ name, kind := .bound r (Value.argument args 0) (args.drop 1) })
      trivial
  | _ => exact Follows.refuse _

theorem Same.fixed (this places : Value) : T.Same (Run.fixed this places) (Run.fixed this places) := by
  refine Same.bind (.see fun h => T.number_heap h places) fun n => ?_
  split
  · exact Follows.raise _ _
  · refine Same.bind (.see fun h => T.number_heap h this) fun x => ?_
    cases Binary.ofFloat? x with
    | some d => exact .pure rfl
    | none => exact .pure rfl

/-! ### Regular expressions -/

theorem Same.search (r : RegexRef) (text : String) : T.Same (Run.search r text) (Run.search r text) :=
  Same.bind (.see fun h => T.regex_heap h r) fun _ => Same.bind (.setLastIndex r _) fun _ => .pure rfl

theorem Same.execRegex (r : RegexRef) (text : String) : T.Same (Run.execRegex r text) (Run.execRegex r text) := by
  refine Same.bind (.search r text) fun found => ?_
  cases found with
  | some g => exact Same.newArray _
  | none => exact .pure rfl

theorem Same.makeRegex (source flags : Value) : T.Same (Run.makeRegex source flags) (Run.makeRegex source flags) := by
  have text (v : Value) : T.Same (Run.see (·.text v)) (Run.see (·.text v)) := .see fun h => T.text_heap h v
  have argument (v : Value) : T.Same (Run.see (·.argumentText v)) (Run.see (·.argumentText v)) :=
    .see fun h => T.argumentText_heap h v
  unfold Run.makeRegex
  split
  · exact Same.bind (.see fun h => T.regex_heap h _) fun _ => Same.newRegex _ _
  · exact Same.bind (.see fun h => T.regex_heap h _) fun _ => Same.bind (text _) fun _ => Same.newRegex _ _
  · exact Same.bind (argument _) fun _ => Same.newRegex _ _
  · exact Same.bind (text _) fun _ => Same.bind (argument _) fun _ => Same.newRegex _ _

/-! ### Arrays and lines -/

theorem Same.makeArray (args : List Value) : T.Same (Run.makeArray args) (Run.makeArray args) := by
  unfold Run.makeArray
  split
  · split
    · exact .newArray _
    · exact Follows.raise _ _
  · exact .newArray _

theorem Same.log (line : String) : T.Same (Run.log line) (Run.log line) :=
  .modified fun _ _ hm =>
    { toCorresponds := { hm.toCorresponds with console := congrArg (Array.push · line) hm.console }
      sound := { hm.sound with } }

/-! ### All of them -/

theorem Same.builtin (hc : T.SameCalls call call') (this : Value) (args : List Value) (b : Builtin) :
    T.Same (Run.builtin call this args b) (Run.builtin call' this args b) := by
  cases b with
  | classText | receiver | isArray | makeBoolean => exact .pure _
  | hasOwnProperty | ownText | numberText | getPrototypeOf | isNaN | parseFloat | parseInt =>
    unfold Run.builtin
    refine .see fun h => ?_
    simp
  | makeString | makeNumber =>
    unfold Run.builtin
    refine .see fun h => ?_
    cases args <;> simp
  | call => exact hc _ _ _
  | apply => exact Same.bind (.argumentList _) fun more => hc _ _ more
  | bind => exact .bindFunction this args
  | array m => exact .arrayMethod hc m this args
  | string m => exact .stringMethod hc m this args
  | fixedText => exact .fixed this _
  | regexTest =>
    cases this with
    | regex r => exact Same.bind (.see fun h => T.text_heap h _) fun s => Same.bind (.search r s) fun _ => .pure rfl
    | _ => exact Follows.refuse _
  | regexExec =>
    cases this with
    | regex r => exact Same.bind (.see fun h => T.text_heap h _) fun s => Same.execRegex r s
    | _ => exact Follows.refuse _
  | log =>
    refine Same.bind (.see fun h => ?_) fun line => Same.bind (.log line) fun _ => .pure rfl
    rw [funext (T.text_heap h)]
  | makeObject =>
    unfold Run.builtin
    dsimp only
    split
    · exact .pure _
    · exact .emptyObject
  | keys =>
    refine Same.bind (.see fun h => T.ownKeys?_heap h _) fun keys => ?_
    cases keys with
    | some keys => exact Same.newArray _
    | none => exact Follows.refuse _
  | create =>
    unfold Run.builtin
    dsimp only
    split
    · exact .newObject _
    · exact .newObject _
    · exact Follows.refuse _
  | makeFunction => exact Follows.refuse _
  | makeArray => exact .makeArray args
  | makeRegex => exact .makeRegex _ _
  | makeError kind => exact Same.bind (.see fun h => T.argumentText_heap h _) fun s => Same.newError kind s

end ScriptCoverage.Machine.Simulation
