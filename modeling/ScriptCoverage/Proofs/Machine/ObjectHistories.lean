import Mathlib.Data.List.DropRight
import ScriptCoverage.Machine.Heap
import ScriptCoverage.Proofs.Table

/-!
The properties of an object under changes in any order. A history says what an object holds: the writings of a key
(`Object.writings`) are the changes that wrote it since it was last taken out, the first of them says where the key
stands and whether enumerations show it, and the last ones say what it holds. Main statement:
`changes_make_ordered_map` — an object that is made by changes is the map of its history, in the order in which its keys
came in.
-/

namespace ScriptCoverage.Machine.Object

/-! ### Changes -/

/-- What can be done to the properties of an object. -/
inductive Change
  | set (key : String) (v : Value)
  | setHidden (key : String) (v : Value)
  | setAccessor (key : String) (get set : Option Value)
  | erase (key : String)
  deriving DecidableEq

namespace Change

def key : Change → String
  | set key _ | setHidden key _ | setAccessor key _ _ | erase key => key

def apply (o : Object) : Change → Object
  | set key v => o.set key v
  | setHidden key v => o.setHidden key v
  | setAccessor key getter setter => o.setAccessor key getter setter
  | erase key => o.erase key

def isErase : Change → Bool
  | erase _ => true
  | set .. | setHidden .. | setAccessor .. => false

def isAccessor : Change → Bool
  | setAccessor .. => true
  | set .. | setHidden .. | erase _ => false

/-- Whether enumerations show a key that comes in with the change. -/
def shows : Change → Bool
  | set .. | setAccessor .. => true
  | setHidden .. | erase _ => false

def getter? : Change → Option Value
  | setAccessor _ getter _ => getter
  | set .. | setHidden .. | erase _ => none

def setter? : Change → Option Value
  | setAccessor _ _ setter => setter
  | set .. | setHidden .. | erase _ => none

/-- What a key holds behind a change, given what it held before. -/
def written? (old : Option Property) : Change → Option Property
  | set _ v | setHidden _ v => some (.data v)
  | setAccessor _ getter setter =>
    match old with
    | some (.accessor oldGetter oldSetter) => some (.accessor (getter.or oldGetter) (setter.or oldSetter))
    | _ => some (.accessor getter setter)
  | erase _ => none

end Change

/-- An object behind changes, one after the other. -/
def after (o : Object) (cs : List Change) : Object := cs.foldl Change.apply o

/-! ### What a history says of a key -/

/-- The changes that wrote a key since it was last taken out. -/
def writings (cs : List Change) (key : String) : List Change := (cs.filter (·.key = key)).rtakeWhile (!·.isErase)

/-- What a key holds behind some writings: the last value, or the last halves of an accessor that were given since there
was a value. -/
def content? (ws : List Change) : Option Property :=
  match ws.getLast? with
  | some (.set _ v) | some (.setHidden _ v) => some (.data v)
  | some (.setAccessor ..) =>
    let halves := (ws.rtakeWhile Change.isAccessor).reverse
    some (.accessor (halves.findSome? Change.getter?) (halves.findSome? Change.setter?))
  | some (.erase _) | none => none

/-- Whether enumerations show a key behind some writings. -/
def isShown (ws : List Change) : Bool := ws.head?.any Change.shows

/-- Whether a key came in with the change at a position, which is the first one that wrote it or the first one that did so
behind a removal, and was not taken out since. -/
def CameIn (cs : List Change) (key : String) (n : Nat) : Prop :=
  ∃ c, cs[n]? = some c ∧ c.key = key ∧ c.isErase = false ∧ writings (cs.take n) key = [] ∧ .erase key ∉ cs.drop n

variable {cs ws : List Change} {c : Change} {key : String} {o : Object} {n : Nat}

theorem writings_concat : writings (cs ++ [c]) key =
    if c.key = key then if c.isErase then [] else writings cs key ++ [c] else writings cs key := by
  rw [writings, List.filter_append]
  by_cases same : c.key = key
  · rw [List.filter_cons_of_pos (by simpa using same), List.filter_nil, List.rtakeWhile_concat, if_pos same]
    cases c.isErase <;> rfl
  · rw [List.filter_cons_of_neg (by simpa using same), List.filter_nil, List.append_nil, if_neg same, writings]

theorem isErase_of_mem_writings (h : c ∈ writings cs key) : c.isErase = false := by
  simpa using List.mem_rtakeWhile_imp h

/-- The content behind one more writing is what it makes of the content before. -/
theorem content?_concat : content? (ws ++ [c]) = c.written? (content? ws) := by
  rw [content?, List.getLast?_concat]
  cases c with
  | set | setHidden | erase => rfl
  | setAccessor key getter setter =>
    rw [List.rtakeWhile_concat_pos Change.isAccessor ws (.setAccessor key getter setter) rfl, List.reverse_append]
    have none_behind (w : Change) (ws : List Change) (value : w.isAccessor = false) :
        (ws ++ [w]).rtakeWhile Change.isAccessor = [] := List.rtakeWhile_concat_neg Change.isAccessor ws w (by simp [value])
    rcases List.eq_nil_or_concat' ws with rfl | ⟨ws, w, rfl⟩
    · cases getter <;> cases setter <;> rfl
    · rw [content?, List.getLast?_concat]
      cases w with
      | set | setHidden | erase =>
        rw [none_behind _ ws rfl]
        cases getter <;> cases setter <;> rfl
      | setAccessor => cases getter <;> cases setter <;> rfl

theorem content?_eq_none (writes : ∀ w ∈ ws, w.isErase = false) : content? ws = none ↔ ws = [] := by
  rcases List.eq_nil_or_concat' ws with rfl | ⟨ws, w, rfl⟩
  · exact iff_of_true rfl rfl
  · refine iff_of_false ?_ (by simp)
    have write := writes w List.mem_concat_self
    rw [content?, List.getLast?_concat]
    cases w with
    | set | setHidden | setAccessor => nofun
    | erase => cases write

theorem isShown_concat : isShown (ws ++ [c]) = if ws = [] then c.shows else isShown ws := by
  cases ws <;> rfl

/-! ### One change -/

/-- A change gives its key the new content, and takes it out if there is none. -/
theorem apply_eq (o : Object) (c : Change) : c.apply o = match c.written? (o.property? c.key) with
    | some p => o.put c.key p c.shows
    | none => o.erase c.key := by
  cases c with
  | set | setHidden | erase => rfl
  | setAccessor key getter setter =>
    unfold Change.apply setAccessor Change.written? Change.key
    dsimp only
    cases o.property? key with
    | none => rfl
    | some p => cases p <;> rfl

theorem written?_eq_none {old : Option Property} : c.written? old = none ↔ c.isErase := by
  cases c with
  | set | setHidden | erase => simp [Change.written?, Change.isErase]
  | setAccessor key getter setter =>
    refine iff_of_false ?_ nofun
    unfold Change.written?
    cases old with
    | none => nofun
    | some p => cases p <;> nofun

theorem exists_written? (write : c.isErase = false) (old : Option Property) : ∃ p, c.written? old = some p := by
  rw [← Option.isSome_iff_exists, Option.isSome_iff_ne_none, Ne, written?_eq_none, write]
  nofun

theorem apply_of_write (write : c.isErase = false) (o : Object) : ∃ p, c.apply o = o.put c.key p c.shows := by
  obtain ⟨p, written⟩ := exists_written? write (o.property? c.key)
  exact ⟨p, by rw [apply_eq, written]⟩

theorem apply_of_erase (erases : c.isErase = true) (o : Object) : c.apply o = o.erase c.key := by
  rw [apply_eq, written?_eq_none.2 erases]

/-- The slots behind a change. -/
theorem get?_slots_apply : (c.apply o).slots.get? key =
    if c.key = key then
      (c.written? (o.property? key)).map (⟨·, ((o.slots.get? key).map Slot.enumerable).getD c.shows⟩)
    else o.slots.get? key := by
  rw [apply_eq]
  by_cases same : c.key = key
  · subst same
    rw [if_pos rfl]
    cases c.written? (o.property? c.key) with
    | some p => exact (Table.get?_put ..).trans (if_pos rfl)
    | none => exact (Table.get?_erase ..).trans (if_pos rfl)
  · rw [if_neg same]
    cases c.written? (o.property? c.key) with
    | some p => exact (Table.get?_put ..).trans (if_neg same)
    | none => exact (Table.get?_erase ..).trans (if_neg same)

/-- What an object holds under other keys, and in which order, does not change. -/
theorem erase_apply (o : Object) (c : Change) : (c.apply o).erase c.key = o.erase c.key := by
  cases erases : c.isErase with
  | true =>
    rw [apply_of_erase erases]
    exact congrArg (Object.mk · o.proto) (Table.erase_erase ..)
  | false =>
    obtain ⟨p, written⟩ := apply_of_write erases o
    rw [written]
    exact congrArg (Object.mk · o.proto) (Table.erase_put ..)

theorem keys_apply_of_contains (write : c.isErase = false) (there : o.contains c.key) : (c.apply o).keys = o.keys := by
  obtain ⟨p, written⟩ := apply_of_write write o
  rw [written]
  exact Table.keys_put_of_contains _ _ _ there

/-- A new key goes to the end. -/
theorem keys_apply_of_new (write : c.isErase = false) (new : o.contains c.key = false) :
    (c.apply o).keys = o.keys ++ [c.key] := by
  obtain ⟨p, written⟩ := apply_of_write write o
  rw [written, keys, put, Table.put_of_fresh _ _ _ new]
  exact List.map_append

theorem keys_apply_of_erase (erases : c.isErase = true) : (c.apply o).keys = o.keys.filter (· ≠ c.key) := by
  rw [apply_of_erase erases]
  exact Table.keys_erase ..

theorem nodup_keys_apply (distinct : o.keys.Nodup) (c : Change) : (c.apply o).keys.Nodup := by
  cases erases : c.isErase with
  | true =>
    rw [apply_of_erase erases]
    exact Table.nodup_keys_erase _ _ distinct
  | false =>
    obtain ⟨p, written⟩ := apply_of_write erases o
    rw [written]
    exact Table.nodup_keys_put _ _ _ distinct

/-- Enumerations show the keys whose slots say so. -/
theorem enumerableKeys_eq (distinct : o.keys.Nodup) :
    o.enumerableKeys = o.keys.filter fun key => (o.slots.get? key).any Slot.enumerable := by
  rw [enumerableKeys, keys, Table.keys, List.filter_map]
  refine congrArg (List.map Prod.fst) (List.filter_congr fun e he => ?_)
  have found : o.slots.get? e.1 = some e.2 := Table.get?_of_mem_entries distinct he
  rw [Function.comp_apply, found, Option.any_some]

/-- A key that is written again keeps its place, and is shown if it was before. -/
theorem enumerableKeys_apply_of_contains (distinct : o.keys.Nodup) (write : c.isErase = false)
    (there : o.contains c.key) : (c.apply o).enumerableKeys = o.enumerableKeys := by
  rw [enumerableKeys_eq (nodup_keys_apply distinct c), enumerableKeys_eq distinct, keys_apply_of_contains write there]
  refine List.filter_congr fun key _ => ?_
  rw [get?_slots_apply]
  split
  · next same =>
    subst same
    obtain ⟨p, written⟩ := exists_written? write (o.property? c.key)
    obtain ⟨s, found⟩ := Option.isSome_iff_exists.1 there
    rw [written, found]
    rfl
  · rfl

/-! ### Histories -/

section

variable (proto : Option ObjectRef)

theorem after_concat (o : Object) (cs : List Change) (c : Change) : o.after (cs ++ [c]) = c.apply (o.after cs) := by
  rw [after, List.foldl_append]
  rfl

/-- The slots of an object are those of its history. -/
theorem get?_slots_after (cs : List Change) (key : String) : (({ proto } : Object).after cs).slots.get? key =
    (content? (writings cs key)).map (⟨·, isShown (writings cs key)⟩) := by
  induction cs using List.reverseRecOn generalizing key with
  | nil => rfl
  | append_singleton cs c ih =>
    rw [after_concat, get?_slots_apply, property?, ih, writings_concat]
    split
    · cases erases : c.isErase with
      | true => rw [written?_eq_none.2 erases]; rfl
      | false =>
        rw [if_neg nofun, content?_concat, isShown_concat, Option.map_map]
        cases before : content? (writings cs key) with
        | none =>
          have nothing := (content?_eq_none fun w hw => isErase_of_mem_writings hw).1 before
          rw [if_pos nothing]
          rfl
        | some p =>
          have some_before : writings cs key ≠ [] := fun nothing => by
            rw [nothing] at before
            cases before
          rw [if_neg some_before]
          rfl
    · rfl

theorem property?_after (cs : List Change) (key : String) :
    (({ proto } : Object).after cs).property? key = content? (writings cs key) := by
  rw [property?, get?_slots_after, Option.map_map]
  exact Option.map_id'

theorem nodup_keys_after (cs : List Change) : (({ proto } : Object).after cs).keys.Nodup := by
  induction cs using List.reverseRecOn with
  | nil => exact List.nodup_nil
  | append_singleton cs c ih =>
    rw [after_concat]
    exact nodup_keys_apply ih c

theorem contains_after (cs : List Change) (key : String) :
    (({ proto } : Object).after cs).contains key ↔ writings cs key ≠ [] := by
  rw [contains, Table.contains, get?_slots_after, Option.isSome_map, Option.isSome_iff_ne_none, Ne,
    content?_eq_none fun w hw => isErase_of_mem_writings hw]

/-! ### When keys came in -/

theorem CameIn.lt (h : CameIn cs key n) : n < cs.length := by
  obtain ⟨c, found, -⟩ := h
  exact (List.getElem?_eq_some_iff.1 found).1

/-- The last change brings its own key in if it was not there, and takes it out or leaves it where it came in. -/
theorem cameIn_concat : CameIn (cs ++ [c]) key n ↔
    (CameIn cs key n ∧ c ≠ .erase key) ∨ (n = cs.length ∧ c.key = key ∧ c.isErase = false ∧ writings cs key = []) := by
  rcases Nat.lt_trichotomy n cs.length with before | rfl | behind
  · rw [or_iff_left fun h => absurd h.1 (Nat.ne_of_lt before), CameIn, CameIn, List.getElem?_append_left before,
      List.take_append_of_le_length (Nat.le_of_lt before), List.drop_append_of_le_length (Nat.le_of_lt before)]
    simp only [List.mem_append, List.mem_singleton, not_or, Ne, eq_comm (a := c)]
    constructor
    · rintro ⟨w, found, same, write, first, kept, last⟩
      exact ⟨⟨w, found, same, write, first, kept⟩, last⟩
    · rintro ⟨⟨w, found, same, write, first, kept⟩, last⟩
      exact ⟨w, found, same, write, first, kept, last⟩
  · rw [or_iff_right fun h => Nat.lt_irrefl _ h.1.lt, CameIn, List.getElem?_concat_length, List.take_left, List.drop_left]
    constructor
    · rintro ⟨w, same, here, write, first, -⟩
      obtain rfl := Option.some.inj same
      exact ⟨rfl, here, write, first⟩
    · rintro ⟨-, here, write, first⟩
      refine ⟨c, rfl, here, write, first, fun last => ?_⟩
      rw [← List.mem_singleton.1 last] at write
      cases write
  · refine iff_of_false (fun h => ?_) ?_
    · have lt := h.lt
      rw [List.length_append, List.length_singleton] at lt
      omega
    · rintro (⟨came, -⟩ | ⟨rfl, -⟩)
      · exact absurd came.lt (by omega)
      · exact absurd behind (Nat.lt_irrefl _)

/-- A key that was written since it was last taken out came in at some time. -/
theorem exists_cameIn : (∃ n, CameIn cs key n) ↔ writings cs key ≠ [] := by
  induction cs using List.reverseRecOn with
  | nil => exact iff_of_false (fun ⟨n, came⟩ => absurd came.lt (Nat.not_lt_zero n)) (fun some => some rfl)
  | append_singleton cs c ih =>
    simp only [cameIn_concat, exists_or, exists_and_right, ih]
    rw [writings_concat]
    by_cases same : c.key = key
    · cases c <;> by_cases empty : writings cs key = [] <;> simp_all [Change.key, Change.isErase]
    · have other : c ≠ .erase key := fun h => same (by rw [h]; rfl)
      simp [same, other]

theorem mem_keys_after (cs : List Change) (key : String) :
    key ∈ (({ proto } : Object).after cs).keys ↔ ∃ n, CameIn cs key n := by
  rw [exists_cameIn, ← contains_after proto]
  exact (Table.contains_iff_mem _ _).symm

/-- Keys stand in the order in which they came in. -/
theorem pairwise_keys_after (cs : List Change) : (({ proto } : Object).after cs).keys.Pairwise fun key key' =>
    ∀ n n', CameIn cs key n → CameIn cs key' n' → n < n' := by
  induction cs using List.reverseRecOn with
  | nil => exact .nil
  | append_singleton cs c ih =>
    rw [after_concat]
    cases erases : c.isErase with
    | true =>
      -- no key comes in with a removal
      have before {key : String} {n : Nat} (came : CameIn (cs ++ [c]) key n) : CameIn cs key n := by
        refine (cameIn_concat.1 came).elim And.left fun now => ?_
        rw [erases] at now
        exact absurd now.2.2.1 nofun
      rw [keys_apply_of_erase erases]
      exact (ih.imp fun sorted n n' came came' => sorted n n' (before came) (before came')).filter _
    | false =>
      cases there : (({ proto } : Object).after cs).contains c.key with
      | true =>
        -- no key comes in with a key that is there already
        have written := (contains_after proto cs c.key).1 there
        have before {key : String} {n : Nat} (came : CameIn (cs ++ [c]) key n) : CameIn cs key n :=
          (cameIn_concat.1 came).elim And.left fun ⟨_, same, _, nothing⟩ => absurd (same ▸ nothing) written
        rw [keys_apply_of_contains erases there]
        exact ih.imp fun sorted n n' came came' => sorted n n' (before came) (before came')
      | false =>
        -- a new key comes in now, and all others came in before
        have new : c.key ∉ (({ proto } : Object).after cs).keys := fun h => by
          rw [contains, (Table.contains_iff_mem _ _).2 h] at there
          cases there
        have before {key : String} (other : c.key ≠ key) {n : Nat} (came : CameIn (cs ++ [c]) key n) : CameIn cs key n :=
          (cameIn_concat.1 came).elim And.left fun now => absurd now.2.1 other
        have now {n : Nat} (came : CameIn (cs ++ [c]) c.key n) : n = cs.length :=
          (cameIn_concat.1 came).elim (fun came => absurd ((mem_keys_after proto cs c.key).2 ⟨n, came.1⟩) new) And.left
        rw [keys_apply_of_new erases there]
        refine List.pairwise_append.2 ⟨?_, List.pairwise_singleton _ _, fun key hk last hl n n' came came' => ?_⟩
        · refine ih.imp_of_mem fun hk hk' sorted n n' came came' => ?_
          exact sorted n n' (before (fun h => new (h ▸ hk)) came) (before (fun h => new (h ▸ hk')) came')
        · obtain rfl := List.mem_singleton.1 hl
          rw [now came']
          exact (before (fun h => new (h ▸ hk)) came).lt

end

/-- An object that is made by changes in any order is the map of its history. No key comes twice; the keys are those that
came in and were not taken out since, in the order in which they came in. A key holds the last content that was written,
where a value takes the place of what was there and the halves of accessors add up. Enumerations show, in the same order,
the keys that came in with a change that shows them. Look-ups and the size agree with all this. A change of one key
changes nothing about the other ones, and a key that is written again keeps its place and stays shown or hidden. -/
theorem changes_make_ordered_map (proto : Option ObjectRef) (cs : List Change) :
    let o := ({ proto } : Object).after cs
    o.keys.Nodup ∧
    (∀ key, key ∈ o.keys ↔ ∃ n, CameIn cs key n) ∧
    o.keys.Pairwise (fun key key' => ∀ n n', CameIn cs key n → CameIn cs key' n' → n < n') ∧
    (∀ key, o.property? key = content? (writings cs key)) ∧
    o.enumerableKeys = o.keys.filter (fun key => isShown (writings cs key)) ∧
    (∀ key, (o.contains key ↔ key ∈ o.keys) ∧ o.get? key = (content? (writings cs key)).bind Property.value?) ∧
    o.size = o.keys.length ∧
    (∀ (h : Heap) r key p, r.index < h.objects.size → h.object r = o → content? (writings cs key) = some p →
      h.lookup? r key = some p) ∧
    ∀ c : Change,
      (c.apply o).erase c.key = o.erase c.key ∧
      (∀ key, key ≠ c.key → (c.apply o).slots.get? key = o.slots.get? key) ∧
      (c.isErase = false → o.contains c.key →
        (c.apply o).keys = o.keys ∧ (c.apply o).enumerableKeys = o.enumerableKeys) := by
  intro o
  have distinct : o.keys.Nodup := nodup_keys_after proto cs
  have property (key : String) : o.property? key = content? (writings cs key) := property?_after proto cs key
  refine ⟨distinct, mem_keys_after proto cs, pairwise_keys_after proto cs, property, ?_, fun key => ⟨?_, ?_⟩, ?_,
    fun h r key p there same held => ?_, fun c => ⟨erase_apply o c, fun key other => ?_, fun write present => ?_⟩⟩
  · rw [enumerableKeys_eq distinct]
    refine List.filter_congr fun key hk => ?_
    rw [get?_slots_after, Option.any_map]
    cases held : content? (writings cs key) with
    | some p => rfl
    | none =>
      have present := (contains_after proto cs key).1 ((Table.contains_iff_mem _ _).2 hk)
      exact absurd ((content?_eq_none fun w hw => isErase_of_mem_writings hw).1 held) present
  · exact Table.contains_iff_mem _ _
  · rw [Object.get?, property]
  · exact (List.length_map ..).symm
  · obtain ⟨size, counted⟩ := Nat.exists_eq_add_of_lt there
    have own : (h.object r).property? key = some p := by rw [same, property, held]
    rw [Heap.lookup?, Heap.chain, counted, Heap.chainWithin, List.findSome?_cons, own]
  · rw [get?_slots_apply, if_neg (Ne.symm other)]
  · exact ⟨keys_apply_of_contains write present, enumerableKeys_apply_of_contains distinct write present⟩

end ScriptCoverage.Machine.Object
