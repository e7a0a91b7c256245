import ScriptCoverage.Proofs.Machine.Dealing

/-!
Operations on values that deal in objects that exist: reading and writing properties and names, and the functions that
are there from the start, if all calls deal in such objects. Main statements: `Deals.getProperty`, `Deals.setProperty`,
`Deals.getName`, `Deals.setName` and `Deals.builtin`.
-/

namespace ScriptCoverage.Machine

variable {σ : Type} {held : σ → List Value}

namespace Deals

variable {vs : List Value}

/-! ### Properties and names -/

variable (held) in
/-- Whether all calls deal in objects that exist. -/
def Calls (call : Caller σ) : Prop := ∀ f this args, Deals held (f :: this :: args) ([·]) (call f this args)

/-- Items that fill up an array are no objects. -/
theorem allWithin_fill {n : Nat} {items : Array Value} (all : AllWithin n items.toList) (length : Nat) :
    AllWithin n (Run.fill items length).toList := by
  rw [Run.fill, Array.toList_append]
  refine allWithin_append.2 ⟨all, fun v hv => ?_⟩
  rw [Array.toList_replicate] at hv
  rw [List.eq_of_mem_replicate hv]
  trivial

theorem allWithin_resize {n : Nat} {items : Array Value} (all : AllWithin n items.toList) (length : Nat) :
    AllWithin n (Run.resize items length).toList := by
  rw [Run.resize]
  split
  · have taken : (items.take length).toList = items.toList.take length := by simp
    rw [taken]
    exact all.of_subset (List.take_subset length items.toList)
  · exact allWithin_fill all length

theorem allWithin_putItem {n : Nat} {items : Array Value} (all : AllWithin n items.toList) {new : Value}
    (known : new.Within n) (i : Nat) : AllWithin n (Run.putItem items i new).toList := by
  rw [Run.putItem]
  split
  · intro v hv
    rw [Array.toList_setIfInBounds] at hv
    rcases List.mem_or_eq_of_mem_set hv with old | rfl
    · exact all v old
    · exact known
  · rw [Array.toList_push]
    exact allWithin_append.2 ⟨allWithin_fill all i, allWithin_cons.2 ⟨known, allWithin_nil⟩⟩

section Properties

variable {call : Caller σ} (hc : Calls held call)

include hc

theorem readProperty (receiver : Value) (p : Option Property) :
    Deals held (receiver :: valuesIn Property.values p) ([·]) (Run.readProperty call receiver p) := by
  match p with
  | none | some (.accessor none _) => exact pure _
  | some (.data v) => exact pure v
  | some (.accessor (some get) set) => exact (hc get receiver []).of

theorem readInherited (receiver : Value) (proto : ObjectRef) (key : String) :
    Deals held [receiver] ([·]) (Run.readInherited call receiver proto key) :=
  bind (seeLookup proto key) fun p => (readProperty hc receiver p).of

theorem readFunction (r : FunctionRef) (key : String) :
    Deals held [] ([·]) (Run.readFunction call r key) := by
  refine bind (seeFunction r) fun f => ?_
  cases found : f.properties.property? key with
  | some p =>
    have covers : Covers (f.values ++ []) (.function r :: valuesIn Property.values (some p)) := by
      refine ⟨fun n _ known => ?_⟩
      have own := Object.allWithin_property (allWithin_append.1 (allWithin_append.1 known).1).2 found
      exact allWithin_cons.2 ⟨trivial, own⟩
    exact (readProperty hc (.function r) (some p)).of
  | none =>
    dsimp only
    split
    · exact pure _
    split
    · exact bind (seeNone _) fun _ => pure _
    split
    · refine bind emptyObject fun proto => ?_
      have store : Deals held [proto] (fun _ => [])
          (Run.change (·.modifyProperties r (·.setHidden "prototype" proto)) : Run σ Unit) :=
        changeProperties r fun n o known all => Object.allWithin_setHidden all (known proto List.mem_cons_self) "prototype"
      exact bind store.of fun _ => pure proto
    · exact (readInherited hc (.function r) functionPrototype key).of

theorem readString (s key : String) : Deals held [] ([·]) (Run.readString call s key) := by
  unfold Run.readString
  split
  · exact pure _
  · cases positionOf? key with
    | some i => exact pure _
    | none => exact (readInherited hc (.string s) stringPrototype key).of

theorem readArray (r : ArrayRef) (key : String) : Deals held [] ([·]) (Run.readArray call r key) := by
  refine bind (seeArray r) fun items => ?_
  split
  · exact pure _
  · cases positionOf? key with
    | some i =>
      have covers : Known items.toList (Run.itemAt items i) := by
        refine ⟨fun n _ known => ?_⟩
        rw [Run.itemAt]
        cases found : items[i]? with
        | none => trivial
        | some v => exact known v (Array.mem_def.1 (Array.mem_of_getElem? found))
      exact pure _
    | none => exact (readInherited hc (.array r) arrayPrototype key).of

theorem readRegex (r : RegexRef) (key : String) : Deals held [] ([·]) (Run.readRegex call r key) := by
  refine bind (seeNone _) fun x => ?_
  cases found : Run.regexProperty? x key with
  | some v =>
    have covers : Known [] v := by
      unfold Run.regexProperty? at found
      split at found <;> cases found <;> infer_instance
    exact pure v
  | none => exact (readInherited hc (.regex r) regexPrototype key).of

theorem getProperty (v : Value) (key : String) : Deals held [v] ([·]) (Run.getProperty call v key) := by
  cases v with
  | undefined | null => exact refuse _
  | object r => exact readInherited hc (.object r) r key
  | function r => exact (readFunction hc r key).of
  | array r => exact (readArray hc r key).of
  | string s => exact (readString hc s key).of
  | regex r => exact (readRegex hc r key).of
  | number x => exact readInherited hc _ _ key
  | bool b => exact readInherited hc _ _ key

theorem writeAccessor (receiver new : Value) (set : Option Value) :
    Deals held (receiver :: new :: valuesIn ([·]) set) (fun _ => []) (Run.writeAccessor call receiver new set) := by
  cases set with
  | none => exact pure ()
  | some set => exact bind (hc set receiver [new]).of fun _ => pure ()

theorem writeObject (r : ObjectRef) (key : String) (new : Value) :
    Deals held [.object r, new] (fun _ => []) (Run.writeObject call r key new) := by
  refine bind (seeLookup r key) fun p => ?_
  match p with
  | none | some (.data _) =>
    refine (changeObject r (fun _ => rfl) fun n o known all => ?_ :
      Deals held [new] (fun _ => []) (Run.change (·.modifyObject r (·.set key new)) : Run σ Unit)).of
    exact Object.allWithin_set all (known new List.mem_cons_self) key
  | some (.accessor _ set) => exact (writeAccessor hc (.object r) new set).of

theorem writeFunction (r : FunctionRef) (key : String) (new : Value) :
    Deals held [new] (fun _ => []) (Run.writeFunction call r key new) := by
  refine bind (seeFunction r) fun f => ?_
  have store : Deals held [new] (fun _ => []) (if key = "prototype"
      then Run.change (·.modifyProperties r (·.setHidden key new))
      else Run.change (·.modifyProperties r (·.set key new)) : Run σ Unit) := by
    split
    · exact changeProperties r fun n o known all => Object.allWithin_setHidden all (known new List.mem_cons_self) key
    · exact changeProperties r fun n o known all => Object.allWithin_set all (known new List.mem_cons_self) key
  cases found : f.properties.property? key with
  | none => exact store.of
  | some p =>
    cases p with
    | data => exact store.of
    | accessor get set =>
      have covers : Covers (f.values ++ [new]) (.function r :: new :: valuesIn ([·]) set) := by
        refine ⟨fun n _ known => ?_⟩
        obtain ⟨all, here⟩ := allWithin_append.1 known
        have own := Object.allWithin_property (allWithin_append.1 all).2 found
        exact allWithin_cons.2 ⟨trivial, allWithin_cons.2 ⟨here new List.mem_cons_self, (allWithin_append.1 own).2⟩⟩
      exact (writeAccessor hc (.function r) new set).of

omit hc in
theorem writeArray (r : ArrayRef) (key : String) (new : Value) :
    Deals held [new] (fun _ => []) (Run.writeArray r key new : Run σ Unit) := by
  unfold Run.writeArray
  cases positionOf? key with
  | some i => exact changeArray r fun n items known all => allWithin_putItem all (known new List.mem_cons_self) i
  | none =>
    dsimp only
    split
    · exact bind (seeNone _) fun length => changeArray r fun n items _ all => allWithin_resize all length
    · exact pure ()

omit hc in
theorem writeRegex (r : RegexRef) (key : String) (new : Value) :
    Deals held vs (fun _ => []) (Run.writeRegex r key new : Run σ Unit) := by
  unfold Run.writeRegex
  split
  · exact bind (seeNone _) fun x => setLastIndex r _
  · exact pure ()

theorem setProperty (v : Value) (key : String) (new : Value) :
    Deals held [v, new] (fun _ => []) (Run.setProperty call v key new) := by
  cases v with
  | undefined | null => exact refuse _
  | object r => exact writeObject hc r key new
  | function r => exact (writeFunction hc r key new).of
  | array r => exact (writeArray r key new).of
  | regex r => exact writeRegex r key new
  | bool b | number x | string s => exact pure ()

omit hc in
theorem deleteProperty (v : Value) (key : String) :
    Deals held vs (fun _ => []) (Run.deleteProperty v key : Run σ Unit) := by
  cases v with
  | object r => exact changeObject r (fun _ => rfl) fun n o _ all => Object.allWithin_erase all key
  | function r => exact changeProperties r fun n o _ all => Object.allWithin_erase all key
  | array r =>
    unfold Run.deleteProperty
    cases positionOf? key with
    | some i =>
      refine changeArray r fun n items _ all v hv => ?_
      rw [Array.toList_setIfInBounds] at hv
      rcases List.mem_or_eq_of_mem_set hv with old | rfl
      · exact all v old
      · trivial
    | none => exact pure ()
  | _ => exact pure ()

theorem getName (scope : Scope) (name : String) : Deals held [] ([·]) (Run.getName call scope name) := by
  rw [Run.getName_eq]
  refine bind (find scope name) fun found => ?_
  match found with
  | some (.binding owner) =>
    refine look fun m closed _ => allWithin_cons.2 ⟨?_, allWithin_nil⟩
    rw [Machine.binding?]
    cases bound : (m.frame (owner.head?.getD globalFrame)).bindings.get? name with
    | none => trivial
    | some v => exact (allWithin_append.1 (closed.frame _)).2 v (Table.mem_values_of_get? bound)
  | some (.property v) => exact (getProperty hc v name).of
  | none => exact fail rfl

theorem setName (scope : Scope) (name : String) (new : Value) :
    Deals held [new] (fun _ => []) (Run.setName call scope name new) := by
  rw [Run.setName_eq]
  refine bind (find scope name) fun found => ?_
  match found with
  | some (.binding owner) => exact (declare owner name new).of
  | some (.property v) => exact (setProperty hc v name new).of
  | none => exact (bindName globalFrame name new).of

end Properties

/-! ### Arrays -/

section Builtins

variable {call : Caller σ} (hc : Calls held call)

include hc

theorem callEach (callback this : Value) (r : ArrayRef) (i : Nat) (items : List Value) :
    Deals held (callback :: this :: items) (fun results => results) (Run.callEach call callback this r i items) := by
  induction items generalizing i with
  | nil => exact pure []
  | cons v items ih =>
    refine bind (hc callback this [v, .ofNat i, .array r]).of fun result => ?_
    exact bind (ih (i + 1)).of fun results => pure (result :: results)

omit hc in
/-- Looking at one item of an array. -/
theorem seeItem (r : ArrayRef) {pick : Array Value → Option Value} (listed : ∀ {items v}, pick items = some v → v ∈ items) :
    Deals held vs (valuesIn ([·])) (Run.see fun h => pick (h.array r) : Run σ (Option Value)) := by
  refine see fun H closed _ => ?_
  cases found : pick (H.array r) with
  | none => exact allWithin_nil
  | some v => exact allWithin_cons.2 ⟨closed.array r v (Array.mem_def.1 (listed found)), allWithin_nil⟩

omit hc in
/-- Leaving out items of an array. -/
theorem dropItems (r : ArrayRef) {f : Array Value → Array Value} (fewer : ∀ items, (f items).toList ⊆ items.toList) :
    Deals held vs (fun _ => []) (Run.change (·.modifyArray r f) : Run σ Unit) :=
  changeArray r fun _ items _ all => all.of_subset (fewer items)

theorem onArray (r : ArrayRef) (args : List Value) (m : ArrayMethod) :
    Deals held args ([·]) (Run.onArray call r args m) := by
  cases m with
  | push =>
    have store : Deals held args (fun _ => []) (Run.change (·.modifyArray r (· ++ args.toArray)) : Run σ Unit) := by
      refine changeArray r fun n items known all => ?_
      rw [Array.toList_append]
      exact allWithin_append.2 ⟨all, known⟩
    exact bind store fun _ => bind (seeNone _) fun _ => pure _
  | pop =>
    have fewer (items : Array Value) : items.pop.toList ⊆ items.toList := by
      rw [Array.toList_pop]
      exact List.dropLast_subset items.toList
    have store : Deals held [] (fun _ => []) (Run.change (·.modifyArray r Array.pop) : Run σ Unit) := dropItems r fewer
    exact bind (seeItem r Array.mem_of_back?) fun v => bind store.of fun _ => pure _
  | shift =>
    have fewer (items : Array Value) : (items.drop 1).toList ⊆ items.toList := by
      have dropped : (items.drop 1).toList = items.toList.drop 1 := by simp [List.take_of_length_le]
      rw [dropped]
      exact List.drop_subset 1 items.toList
    have store : Deals held [] (fun _ => []) (Run.change (·.modifyArray r (·.drop 1)) : Run σ Unit) := dropItems r fewer
    exact bind (seeItem r Array.mem_of_getElem?) fun v => bind store.of fun _ => pure _
  | join =>
    unfold Run.onArray
    exact seePlain fun H n => within_string _
  | indexOf =>
    unfold Run.onArray
    refine seePlain fun H n => ?_
    dsimp only
    split
    · exact within_ofNat _
    · exact within_number _
  | slice =>
    refine bind (see fun H closed _ => ?_ : Deals held args (fun items => items) _) fun items => (newArray items).of
    exact (closed.array r).of_subset fun v hv => List.mem_of_mem_take (List.mem_of_mem_drop hv)
  | concat =>
    refine bind (see fun H closed known => ?_ : Deals held args (fun items => items) _) fun items => (newArray items).of
    -- an argument that is an array stands for its items, and any other one for itself
    refine allWithin_append.2 ⟨closed.array r, fun v hv => ?_⟩
    obtain ⟨arg, listed, spread⟩ := List.mem_flatMap.1 hv
    cases arg with
    | array s => exact closed.array s v spread
    | _ =>
      obtain rfl := List.mem_singleton.1 spread
      exact known _ listed
  | forEach => exact bind (seeItems r) fun items => bind (callEach hc _ _ r 0 items).of fun _ => pure _
  | map =>
    refine bind (seeItems r) fun items => bind (callEach hc _ _ r 0 items).of fun results => ?_
    exact (newArray results).of
  | filter =>
    refine bind (seeItems r) fun items => bind (callEach hc _ _ r 0 items).of fun results => ?_
    refine (newArray _).of (c := ⟨fun n _ all v hv => ?_⟩)
    obtain ⟨⟨w, b⟩, paired, here⟩ := List.mem_filterMap.1 hv
    dsimp only at here
    split at here
    · cases here
      exact (allWithin_append.1 (allWithin_append.1 all).2).1 v (List.of_mem_zip paired).1
    · cases here

theorem arrayMethod (m : ArrayMethod) (this : Value) (args : List Value) :
    Deals held args ([·]) (Run.arrayMethod call m this args) := by
  cases this with
  | array r => exact onArray hc r args m
  | _ => exact refuse _

/-! ### Texts -/

omit hc in
theorem matchesOf (pattern : Value) (text : String) :
    Deals held vs (fun _ => []) (Run.matchesOf pattern text : Run σ (List Match)) := by
  cases pattern with
  | regex r =>
    refine bind (seeNone _) fun x => ?_
    split
    · exact bind (setLastIndex r 0) fun _ => pure _
    · exact pure _
  | _ => exact bind (seeNone _) fun _ => pure _

theorem replacementOf (text : String) (replacement : Value) (m : Match) :
    Deals held [replacement] (fun _ => []) (Run.replacementOf call text replacement m) := by
  unfold Run.replacementOf
  split
  · exact bind (hc replacement .undefined _).of fun v => seeNone _
  · exact bind (seeNone _) fun _ => pure _

omit hc in
theorem splice (text : String) {replaced : Match → Run σ String}
    (h : ∀ m, Deals held vs (fun _ => []) (replaced m)) (start : Nat) (ms : List Match) :
    Deals held vs (fun _ => []) (Run.splice text replaced start ms) := by
  induction ms generalizing start with
  | nil => exact pure _
  | cons m ms ih => exact bind (h m) fun _ => bind (ih m.span.stop).of fun _ => pure _

theorem replace (text : String) (pattern replacement : Value) :
    Deals held [replacement] (fun _ => []) (Run.replace call text pattern replacement) :=
  bind (matchesOf pattern text) fun ms => (splice text (replacementOf hc text replacement) 0 ms).of

omit hc in
theorem splitText (text : String) (separator : Value) :
    Deals held vs (fun _ => []) (Run.splitText text separator : Run σ (List String)) := by
  have separated (v : Value) : Deals held vs (fun _ => []) (do
      let separator ← Run.see (·.text v)
      if separator = "" then return (Text.unitsOf text.toList).map fun u => Text.ofUnits [u]
      else return (Text.splitBy separator.toList text.toList).map String.ofList : Run σ (List String)) := by
    refine bind (seeNone _) fun s => ?_
    split
    · exact pure _
    · exact pure _
  cases separator with
  | undefined => exact pure _
  | regex r => exact bind (seeNone _) fun _ => pure _
  | _ => exact separated _

theorem onText (text : String) (args : List Value) (m : StringMethod) :
    Deals held args ([·]) (Run.onText call text args m) := by
  cases m with
  | toString | toUpperCase | toLowerCase | trim => exact pure _
  | charAt | charCodeAt | slice | substring =>
    unfold Run.onText
    exact seePlain fun _ _ => by trivial
  | indexOf =>
    unfold Run.onText
    refine seePlain fun H n => ?_
    dsimp only
    split
    · exact within_ofNat _
    · exact within_number _
  | split =>
    refine bind (splitText text _) fun parts => ?_
    cases Value.argument args 1 with
    | undefined => exact (newArray _).of
    | _ => exact bind (seeNone _) fun limit => (newArray _).of
  | replace => exact bind (replace hc text _ _).of fun _ => pure _

theorem stringMethod (m : StringMethod) (this : Value) (args : List Value) :
    Deals held args ([·]) (Run.stringMethod call m this args) := by
  unfold Run.stringMethod
  split
  · exact refuse _
  · exact bind (seeNone _) fun text => (onText hc text args m).of

/-! ### Functions, numbers and regular expressions -/

omit hc in
theorem argumentList (v : Value) : Deals held [v] (fun vs => vs) (Run.argumentList v : Run σ (List Value)) := by
  cases v with
  | undefined | null => exact pure []
  | array r => exact seeItems r
  | _ => exact refuse _

omit hc in
theorem bindFunction (target : Value) (args : List Value) :
    Deals held args ([·]) (Run.bindFunction target args : Run σ Value) := by
  cases target with
  | function r =>
    refine bind (seeNone _) fun name => ?_
    let f : Function := { name := "bound " ++ name, kind := .bound r (Value.argument args 0) (args.drop 1) }
    have covers : Covers args f.values := by
      have bound : Covers args (Value.argument args 0 :: args.drop 1) := inferInstance
      exact ⟨fun n enough all => allWithin_append.2 ⟨bound.within n enough all, allWithin_nil⟩⟩
    exact (newFunction f).of
  | _ => exact refuse _

omit hc in
theorem fixed (this places : Value) : Deals held vs ([·]) (Run.fixed this places : Run σ Value) := by
  refine bind (seeNone _) fun n => ?_
  split
  · exact raise _ _
  · refine bind (seeNone _) fun x => ?_
    cases Binary.ofFloat? x with
    | some d => exact pure _
    | none => exact pure _

omit hc in
theorem search (r : RegexRef) (text : String) :
    Deals held vs (fun _ => []) (Run.search r text : Run σ (Option Pattern.Groups)) :=
  bind (seeNone _) fun _ => bind (setLastIndex r _) fun _ => pure _

omit hc in
theorem execRegex (r : RegexRef) (text : String) : Deals held vs ([·]) (Run.execRegex r text : Run σ Value) := by
  refine bind (search r text) fun found => ?_
  cases found with
  | some g => exact (newArray _).of
  | none => exact pure _

omit hc in
theorem makeRegex (source flags : Value) : Deals held vs ([·]) (Run.makeRegex source flags : Run σ Value) := by
  unfold Run.makeRegex
  split
  · exact bind (seeNone _) fun _ => newRegex _ _
  · exact bind (seeNone _) fun _ => bind (seeNone _) fun _ => newRegex _ _
  · exact bind (seeNone _) fun _ => newRegex _ _
  · exact bind (seeNone _) fun _ => bind (seeNone _) fun _ => newRegex _ _

omit hc in
theorem makeArray (args : List Value) : Deals held args ([·]) (Run.makeArray args : Run σ Value) := by
  unfold Run.makeArray
  split
  · split
    · next x _ =>
      have blank (n : Nat) : Covers [.number x] (List.replicate n Value.undefined) := by
        refine ⟨fun k _ _ v hv => ?_⟩
        rw [List.eq_of_mem_replicate hv]
        trivial
      have covers := blank ((truncate? x).getD 0).toNat
      exact (newArray _).of
    · exact raise _ _
  · exact newArray _

omit hc in
theorem log (line : String) : Deals held vs (fun _ => []) (Run.log line : Run σ Unit) := still fun _ => ⟨rfl, rfl, rfl⟩

/-! ### All functions that are there from the start -/

theorem builtin (this : Value) (args : List Value) (b : Builtin) :
    Deals held (this :: args) ([·]) (Run.builtin call this args b) := by
  cases b with
  | hasOwnProperty | ownText | numberText | makeString | makeNumber | isNaN | parseFloat | parseInt =>
    unfold Run.builtin
    exact seePlain fun _ _ => by trivial
  | getPrototypeOf =>
    unfold Run.builtin
    refine see fun H closed _ => allWithin_cons.2 ⟨?_, allWithin_nil⟩
    have known := closed.prototypeOf? (Value.argument args 0)
    cases found : H.prototypeOf? (Value.argument args 0) with
    | none => trivial
    | some r =>
      rw [found] at known
      exact known _ List.mem_cons_self
  | classText | receiver | isArray | makeBoolean => exact pure _
  | call => exact (hc _ _ _).of
  | apply => exact bind (argumentList _).of fun _ => (hc _ _ _).of
  | bind => exact (bindFunction _ _).of
  | array m => exact (arrayMethod hc m this args).of
  | string m => exact (stringMethod hc m this args).of
  | fixedText => exact fixed _ _
  | regexTest =>
    cases this with
    | regex r => exact bind (seeNone _) fun _ => bind (search r _) fun _ => pure _
    | _ => exact refuse _
  | regexExec =>
    cases this with
    | regex r => exact bind (seeNone _) fun _ => execRegex r _
    | _ => exact refuse _
  | log => exact bind (seeNone _) fun line => bind (log line) fun _ => pure _
  | makeObject =>
    unfold Run.builtin
    dsimp only
    split
    · exact pure _
    · exact emptyObject
  | keys =>
    refine bind (seeNone _) fun found => ?_
    cases found with
    | some keys => exact (newArray _).of
    | none => exact refuse _
  | create =>
    unfold Run.builtin
    cases first : Value.argument args 0 with
    | object r =>
      have known : Known (this :: args) (.object r) := first ▸ inferInstance
      exact (newObject _).of
    | null => exact (newObject {}).of
    | _ => exact refuse _
  | makeFunction => exact refuse _
  | makeArray => exact (makeArray args).of
  | makeRegex => exact makeRegex _ _
  | makeError kind => exact bind (seeNone _) fun _ => newError kind _

end Builtins

end Deals

end ScriptCoverage.Machine
