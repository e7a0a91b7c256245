import ScriptCoverage.Machine.Initial
import ScriptCoverage.Proofs.Coverage.Counters
import ScriptCoverage.Proofs.Coverage.Recording
import ScriptCoverage.Proofs.Number.Value

/-!
What the arguments of recorder calls count. An offset is a number whose exact value is a natural one. Main statements:
`calls_record_arguments` — a call with anything else fails and changes nothing, and any other call of a module that is
there adds one to the counter of its offsets, where offsets beyond the greatest one stand for it — and
`distant_offsets_share_counter` — two calls whose offsets differ and whose counter is the same.
-/

namespace ScriptCoverage.Recorder

open Machine (Value)

variable {τ : Type}

/-! ### Offsets -/

/-- Whether an argument is a number that is exactly a natural one. -/
def IsOffset (v : Option Value) (n : Nat) : Prop := ∃ x, v = some (.number x) ∧ Binary.value? x = some (n : ℚ)

/-- What is wrong with an argument that is no offset. -/
inductive Malformed : Option Value → Prop
  | missing : Malformed none
  | noNumber {v : Value} (other : ∀ x, v ≠ .number x) : Malformed (some v)
  | notFinite {x : Float} (infinite : x.isFinite = false) : Malformed (some (.number x))
  | negative {x : Float} {q : ℚ} (exactly : Binary.value? x = some q) (below : q < 0) : Malformed (some (.number x))
  | fractional {x : Float} {q : ℚ} (exactly : Binary.value? x = some q) (between : ∀ n : ℤ, q ≠ n) :
      Malformed (some (.number x))

variable {v : Option Value}

theorem malformed_iff : Malformed v ↔ ∀ n, ¬ IsOffset v n := by
  constructor
  · rintro (_ | other | infinite | ⟨exactly, below⟩ | ⟨exactly, between⟩) n ⟨x, same, natural⟩
    · cases same
    · exact other x (Option.some.inj same)
    · cases same
      rw [← Binary.isSome_value?, natural] at infinite
      cases infinite
    · cases same
      cases exactly.symm.trans natural
      exact absurd below (not_lt.2 (Nat.cast_nonneg n))
    · cases same
      cases exactly.symm.trans natural
      exact between n (Int.cast_natCast n).symm
  · intro none
    cases v with
    | none => exact .missing
    | some v =>
      by_cases number : ∃ x, v = .number x
      · obtain ⟨x, rfl⟩ := number
        cases exactly : Binary.value? x with
        | none =>
          refine .notFinite ?_
          rw [← Binary.isSome_value?, exactly]
          rfl
        | some q =>
          by_cases below : q < 0
          · exact .negative exactly below
          -- a whole value that is not negative would be an offset
          refine .fractional exactly fun n same => none n.toNat ⟨x, rfl, ?_⟩
          have positive : 0 ≤ n := by
            rw [same, not_lt] at below
            exact_mod_cast below
          rw [exactly, same, Option.some_inj]
          exact_mod_cast (Int.toNat_of_nonneg positive).symm
      · exact .noNumber (not_exists.1 number)

theorem offset?_eq_some_iff {k : Nat} : offset? v = some k ↔ ∃ n, IsOffset v n ∧ k = min n maxOffset := by
  constructor
  · intro read
    cases v with
    | none => cases read
    | some v =>
      cases v with
      | number x =>
        obtain ⟨n, exactly, cut⟩ := (offset?_number_eq_some_iff x k).1 read
        exact ⟨n, ⟨x, rfl, exactly⟩, cut⟩
      | _ => cases read
  · rintro ⟨n, ⟨x, rfl, exactly⟩, cut⟩
    exact (offset?_number_eq_some_iff x k).2 ⟨n, exactly, cut⟩

theorem offset?_eq_none_iff : offset? v = none ↔ Malformed v := by
  rw [malformed_iff, Option.eq_none_iff_forall_ne_some]
  constructor
  · intro none n offset
    exact none _ (offset?_eq_some_iff.2 ⟨n, offset, rfl⟩)
  · intro none k read
    obtain ⟨n, offset, -⟩ := offset?_eq_some_iff.1 read
    exact none n offset

/-! ### Arguments -/

/-- Whether arguments name a key and two offsets. -/
structure Names (args : List Value) (key : String) (a b : Nat) : Prop where
  key : args.head? = some (.string key)
  start : IsOffset args[1]? a
  stop : IsOffset args[2]? b

/-- The first thing that is wrong with arguments, and what is said about it. -/
inductive Refused (args : List Value) : String → Prop
  | key (other : ∀ key, args.head? ≠ some (.string key)) : Refused args "key must be a string"
  | start {key : String} (head : args.head? = some (.string key)) (start : Malformed args[1]?) :
      Refused args "start must be a non-negative integer"
  | stop {key : String} {a : Nat} (head : args.head? = some (.string key)) (start : IsOffset args[1]? a)
      (stop : Malformed args[2]?) : Refused args "end must be a non-negative integer"

variable {args : List Value} {key : String} {a b : Nat}

theorem exists_refused_iff : (∃ reason, Refused args reason) ↔
    (∀ key, args.head? ≠ some (.string key)) ∨ Malformed args[1]? ∨ Malformed args[2]? := by
  constructor
  · rintro ⟨_, other | ⟨-, start⟩ | ⟨-, -, stop⟩⟩
    · exact .inl other
    · exact .inr (.inl start)
    · exact .inr (.inr stop)
  · intro wrong
    by_cases string : ∃ key, args.head? = some (.string key)
    · obtain ⟨key, head⟩ := string
      by_cases start : Malformed args[1]?
      · exact ⟨_, .start head start⟩
      · have stop := (wrong.resolve_left fun other => other key head).resolve_left start
        rw [malformed_iff, not_forall_not] at start
        obtain ⟨a, start⟩ := start
        exact ⟨_, .stop head start stop⟩
    · exact ⟨_, .key (not_exists.1 string)⟩

/-- Nothing else can be wrong with arguments. -/
theorem refused_or_names (args : List Value) :
    (∃ reason, Refused args reason) ∨ ∃ key a b, Names args key a b := by
  rw [exists_refused_iff]
  by_cases wrong : (∀ key, args.head? ≠ some (.string key)) ∨ Malformed args[1]? ∨ Malformed args[2]?
  · exact .inl wrong
  · simp only [not_or, not_forall, not_not, malformed_iff] at wrong
    obtain ⟨⟨key, head⟩, ⟨a, start⟩, ⟨b, stop⟩⟩ := wrong
    exact .inr ⟨key, a, b, head, start, stop⟩

theorem target_of_head (head : args.head? = some (.string key)) :
    target args = (do
      let start ← offset "start" args[1]?
      let stop ← offset "end" args[2]?
      return (key, ⟨start, stop⟩)) := by
  rw [target, head]

theorem Names.target_eq (h : Names args key a b) : target args = .ok (key, ⟨min a maxOffset, min b maxOffset⟩) := by
  have start := offset?_eq_some_iff.2 ⟨a, h.start, rfl⟩
  have stop := offset?_eq_some_iff.2 ⟨b, h.stop, rfl⟩
  rw [target_of_head h.key, offset, start, offset, stop]
  rfl

theorem Refused.target_eq {reason : String} (h : Refused args reason) : target args = .error (.invalidCall reason) := by
  cases h with
  | key other =>
    rw [target]
    split
    · next key head => exact absurd head (other key)
    · rfl
  | start head start =>
    rw [target_of_head head, offset, offset?_eq_none_iff.2 start]
    rfl
  | @stop _ a head start stop =>
    rw [target_of_head head, offset, offset?_eq_some_iff.2 ⟨a, start, rfl⟩, offset, offset?_eq_none_iff.2 stop]
    rfl

/-! ### What calls count -/

variable {t t' : Table Record}

theorem Refused.recordArgs_eq {reason : String} (h : Refused args reason) (t : Table Record) :
    recordArgs t args = .error (.invalidCall reason) := by
  rw [recordArgs, h.target_eq]
  rfl

theorem Names.recordArgs_eq (h : Names args key a b) (t : Table Record) :
    recordArgs t args = record t key ⟨min a maxOffset, min b maxOffset⟩ := by
  rw [recordArgs, h.target_eq]
  rfl

theorem record_eq_error_iff {s : Span} {e : CoverageError} :
    record t key s = .error e ↔ t.contains key = false ∧ e = .unknownModule key := by
  rw [record, Table.contains]
  cases t.get? key with
  | none => exact ⟨fun h => ⟨rfl, (Except.error.inj h).symm⟩, fun h => h.2 ▸ rfl⟩
  | some r => exact iff_of_false (fun h => by cases h) (fun h => by cases h.1)

/-- The name of the counter of two offsets. -/
def counter (a b : Nat) : String := toString (min a maxOffset) ++ ":" ++ toString (min b maxOffset)

theorem key_eq_counter (a b : Nat) : Span.key ⟨min a maxOffset, min b maxOffset⟩ = counter a b := rfl

theorem counter_inj {a' b' : Nat} :
    counter a b = counter a' b' ↔ min a maxOffset = min a' maxOffset ∧ min b maxOffset = min b' maxOffset := by
  rw [← key_eq_counter, ← key_eq_counter, Span.key_inj, Span.mk.injEq]

/-- The name spells offsets as they are unless they lie beyond the greatest one. -/
theorem counter_eq_iff : counter a b = toString a ++ ":" ++ toString b ↔ a ≤ maxOffset ∧ b ≤ maxOffset := by
  have exactly : toString a ++ ":" ++ toString b = Span.key ⟨a, b⟩ := rfl
  rw [exactly, ← key_eq_counter, Span.key_inj, Span.mk.injEq, min_eq_left_iff, min_eq_left_iff]

/-- What counting does to the records of a session: a counter of a module goes up to `n` and is not among the ranges
that did not run any more, and all else stays as it is. -/
structure Increments (key name : String) (n : Nat) (t t' : Table Record) : Prop where
  keys : t'.keys = t.keys
  others : ∀ other, other ≠ key → t'.get? other = t.get? other
  module : ∃ r r', t.get? key = some r ∧ t'.get? key = some r' ∧ r'.uncounted = r.uncounted ∧
    n = (r.covered.get? name).getD 0 + 1 ∧
    (∀ range, r'.covered.get? range = if range = name then some n else r.covered.get? range) ∧
    ∀ range, r'.uncovered.get? range = if range = name then none else r.uncovered.get? range

theorem exists_increments (known : t.contains key) (s : Span) :
    ∃ n t', record t key s = .ok (n, t') ∧ Increments key s.key n t t' := by
  obtain ⟨r, found⟩ := (Table.contains_iff_get? t key).1 known
  refine ⟨(r.hit s).count s, t.put key (r.hit s), by rw [record, found], ?_, ?_, r, r.hit s, found, ?_, rfl, ?_, ?_, ?_⟩
  · exact Table.keys_put_of_contains _ _ _ known
  · intro other differs
    rw [Table.get?_put, if_neg differs.symm]
  · rw [Table.get?_put, if_pos rfl]
  · rw [Record.count, Record.hit, Table.get?_put, if_pos rfl, Record.count]
    rfl
  · intro range
    rw [Record.count, Record.hit, Table.get?_put, Table.get?_put, if_pos rfl, if_congr eq_comm rfl rfl]
    rfl
  · intro range
    rw [Record.hit, Table.get?_erase, if_congr eq_comm rfl rfl]

/-- A call of a recorder that is given no key or no offset is refused with what is wrong first, and one that names a
module that is not there is refused with its key; a refused call changes nothing. Any other call adds one to one
counter of its module, which is that of its offsets, where offsets beyond the greatest one stand for it. So calls share
a counter iff their offsets do not differ below the greatest one, and the counter is the exact offsets iff these are
words of 64 bits. -/
theorem calls_record_arguments (t : Table Record) (args : List Value) :
    (∀ reason, recordArgs t args = .error (.invalidCall reason) ↔ Refused args reason) ∧
    ((∃ reason, Refused args reason) ↔
      (∀ key, args.head? ≠ some (.string key)) ∨ Malformed args[1]? ∨ Malformed args[2]?) ∧
    (∀ key, recordArgs t args = .error (.unknownModule key) ↔ (∃ a b, Names args key a b) ∧ t.contains key = false) ∧
    (∀ key a b, Names args key a b → t.contains key →
      ∃ n t', recordArgs t args = .ok (n, t') ∧ Increments key (counter a b) n t t') ∧
    (∀ a b a' b', counter a b = counter a' b' ↔ min a maxOffset = min a' maxOffset ∧ min b maxOffset = min b' maxOffset) ∧
    (∀ a b, counter a b = toString a ++ ":" ++ toString b ↔ a < 2 ^ 64 ∧ b < 2 ^ 64) ∧
    ∀ (session : Nat) (m : Machine (Ledger τ)), table m.host session = t →
      call session args m = match recordArgs t args with
        | .ok (_, t') => .ok .undefined (m.withHost (setTable session t' m.host))
        | .error e => .error (.failed (e.toFatal m.heap)) m := by
  have word (a : Nat) : a ≤ maxOffset ↔ a < 2 ^ 64 := by
    change a ≤ 2 ^ 64 - 1 ↔ _
    omega
  refine ⟨fun reason => ⟨fun failed => ?_, fun refused => refused.recordArgs_eq t⟩, exists_refused_iff,
    fun key => ⟨fun failed => ?_, ?_⟩, fun key a b named known => ?_, fun _ _ _ _ => counter_inj,
    fun a b => by rw [counter_eq_iff, word, word], ?_⟩
  · -- arguments that are not refused name a counter, and then only the key can be unknown
    rcases refused_or_names args with ⟨first, refused⟩ | ⟨key, a, b, named⟩
    · cases (refused.recordArgs_eq t).symm.trans failed
      exact refused
    · rw [named.recordArgs_eq, record_eq_error_iff] at failed
      cases failed.2
  · rcases refused_or_names args with ⟨first, refused⟩ | ⟨key, a, b, named⟩
    · cases (refused.recordArgs_eq t).symm.trans failed
    · rw [named.recordArgs_eq, record_eq_error_iff] at failed
      cases failed.2
      exact ⟨⟨a, b, named⟩, failed.1⟩
  · rintro ⟨⟨a, b, named⟩, unknown⟩
    rw [named.recordArgs_eq, record_eq_error_iff]
    exact ⟨unknown, rfl⟩
  · rw [named.recordArgs_eq]
    exact exists_increments known _
  · rintro session m rfl
    cases made : recordArgs (table m.host session) args with
    | ok x => exact call_of_ok made
    | error e => exact call_of_error made

/-! ### Offsets beyond the greatest one -/

/-- The records of one module that lists nothing. -/
def oneRecord : Table Record := ({} : Table Record).put "m/index.js" ⟨"m/index.js", "m", "", none, [], {}, {}, ""⟩

/-- Arguments with powers of two as their offsets. -/
def powers (i : Nat) : List Value := [.string "m/index.js", .number (ofWhole (2 ^ i)), .number (ofWhole (2 ^ (i + 1)))]

theorem names_powers {i : Nat} (h : i = 64 ∨ i = 65) : Names (powers i) "m/index.js" (2 ^ i) (2 ^ (i + 1)) := by
  have exactly (k : Nat) (hk : k = 64 ∨ k = 65 ∨ k = 66) : Binary.value? (ofWhole (2 ^ k)) = some ((2 ^ k : Nat) : ℚ) := by
    have opened : Binary.ofFloat? (ofWhole (2 ^ k)) = some ⟨false, 2 ^ 52, k - 52⟩ := by
      rcases hk with rfl | rfl | rfl <;> decide +kernel
    rw [Binary.value?_eq, opened, Option.map_some]
    rcases hk with rfl | rfl | rfl <;> norm_num [Binary.value]
  exact ⟨rfl, ⟨_, rfl, exactly i (by omega)⟩, ⟨_, rfl, exactly (i + 1) (by omega)⟩⟩

/-- It is so for two offsets that no word can hold. -/
theorem calls_record_arguments_powers :
    Names (powers 64) "m/index.js" (2 ^ 64) (2 ^ 65) ∧ oneRecord.contains "m/index.js" = true ∧
    (∃ n t', recordArgs oneRecord (powers 64) = .ok (n, t') ∧
      Increments "m/index.js" "18446744073709551615:18446744073709551615" n oneRecord t') ∧
    table (Machine.bare (Ledger.mk #[oneRecord] ())).host 0 = oneRecord ∧
    call 0 [] (Machine.bare (Ledger.mk #[oneRecord] ())) =
      .error (.failed (.fatal "Invalid recorder call: key must be a string")) (Machine.bare ⟨#[oneRecord], ()⟩) := by
  have named := names_powers (.inl rfl)
  have known : oneRecord.contains "m/index.js" = true := by decide +kernel
  have name : counter (2 ^ 64) (2 ^ 65) = "18446744073709551615:18446744073709551615" := by decide +kernel
  obtain ⟨-, -, -, counted, -⟩ := calls_record_arguments (τ := Unit) oneRecord (powers 64)
  obtain ⟨refused, -, -, -, -, -, called⟩ := calls_record_arguments (τ := Unit) oneRecord []
  have empty : recordArgs oneRecord [] = .error (.invalidCall "key must be a string") :=
    (refused _).2 (.key nofun)
  refine ⟨named, known, name ▸ counted _ _ _ named known, rfl, ?_⟩
  rw [called 0 _ rfl, empty]
  rfl

/-- Offsets that differ share a counter where no word holds them: the second of the two calls counts two runs. -/
theorem distant_offsets_share_counter :
    Names (powers 64) "m/index.js" (2 ^ 64) (2 ^ 65) ∧ Names (powers 65) "m/index.js" (2 ^ 65) (2 ^ 66) ∧
    (recordArgs oneRecord (powers 64) >>= fun x => recordArgs x.2 (powers 65)).toOption.map Prod.fst = some 2 :=
  ⟨names_powers (.inl rfl), names_powers (.inr rfl), by decide +kernel⟩

end ScriptCoverage.Recorder
