import RecordMapper.Proofs.Statement.Batch
/-!
# What a dialect is handed

A dialect is handed the parts of one record after the other, and those of the first records also if a
later one fails. A statement is worded from what was handed over for it, and a batch from the parts of its
records, each under its own number.
-/

namespace RecordMapper

namespace Watched

variable {α β : Type}

theorem pure_eq (a : α) : (pure a : Watched α) = ⟨[], .ok a⟩ := rfl

theorem bind_ok {handed : List Parts} {a : α} {f : α → Watched β} :
    (⟨handed, .ok a⟩ : Watched α) >>= f = ⟨handed ++ (f a).handed, (f a).result⟩ := rfl

theorem bind_pure_eq (x : Watched α) (g : α → β) :
    (x >>= fun a => pure (g a)) = ⟨x.handed, x.result.map g⟩ := by
  obtain ⟨handed, result⟩ := x
  cases result with
  | error e => rfl
  | ok a => rw [bind_ok, pure_eq, List.append_nil, Except.map]

end Watched

namespace Dialect

variable {d : Dialect} {verb : Verb} {m : EntityMapping} {index : Option Nat}
  {record : List Value} {records : List (List Value)}

theorem numberedWatched_eq :
    d.numberedWatched verb m index record =
      match d.numbered verb m index record with
      | .error e => ⟨[], .error e⟩
      | .ok s => ⟨[verb.parts m index (m.fields.zip record)], .ok s⟩ := by
  rw [numbered_eq, numberedWatched]
  cases hb : m.bindings record with
  | error e => rfl
  | ok bound =>
    obtain ⟨-, rfl⟩ := EntityMapping.bindings_eq_ok_iff.1 hb
    rw [Watched.ofExcept, Watched.bind_ok]
    dsimp only
    split_ifs with hset
    · rfl
    · rfl

theorem checkKeys_eq_error (hverb : verb.needsKeys = true) (hkeys : m.hasKeys = false) :
    checkKeys verb m = .error (Error.ofCause (.noKeyDefined m.name)) := by
  simp [checkKeys, EntityMapping.requireKeys, hverb, hkeys]

theorem singleWatched_eq :
    d.singleWatched verb m record =
      match d.single verb m record with
      | .error e => ⟨[], .error e⟩
      | .ok s => ⟨[verb.parts m none (m.fields.zip record)], .ok s⟩ := by
  rw [single_eq, singleWatched]
  cases checkKeys verb m with
  | error e => rfl
  | ok u =>
    simp only [Watched.ofExcept, Watched.bind_ok, numberedWatched_eq]
    cases d.numbered verb m none record <;> rfl

theorem handed_singleWatched {s : Statement} (h : d.single verb m record = .ok s) :
    (d.singleWatched verb m record).handed = [verb.parts m none (m.fields.zip record)] := by
  rw [singleWatched_eq, h]

theorem statementsWatched_cons {first : Nat} :
    d.statementsWatched verb m first (record :: records) =
      match d.numbered verb m (some first) record with
      | .error e => ⟨[], .error (e.context ("record " ++ Decimal.natText first ++ " of batch"))⟩
      | .ok s =>
        ⟨verb.parts m (some first) (m.fields.zip record) ::
            (d.statementsWatched verb m (first + 1) records).handed,
          (d.statementsWatched verb m (first + 1) records).result.map (s :: ·)⟩ := by
  rw [statementsWatched, numberedWatched_eq]
  cases d.numbered verb m (some first) record with
  | error e => rfl
  | ok s =>
    simp only [Watched.mapError, Except.mapError, Watched.bind_ok, Watched.bind_pure_eq]
    rfl

/-- Up to the first failure the records are handed over in order, each under its own number. -/
theorem handed_statementsWatched {first i : Nat} {p : Parts}
    (h : (d.statementsWatched verb m first records).handed[i]? = some p) :
    ∃ record, records[i]? = some record ∧ verb.Accepts m record ∧
      p = verb.parts m (some (first + i)) (m.fields.zip record) := by
  induction records generalizing first i with
  | nil => cases h
  | cons record rest ih =>
    rw [statementsWatched_cons] at h
    cases hs : d.numbered verb m (some first) record with
    | error e =>
      rw [hs] at h
      cases h
    | ok s =>
      rw [hs] at h
      cases i with
      | zero => exact ⟨record, rfl, (numbered_eq_ok_iff.1 hs).1, (Option.some.inj h).symm⟩
      | succ i =>
        obtain ⟨r, hr, ha, rfl⟩ := ih h
        exact ⟨r, hr, ha, by rw [Nat.add_right_comm, Nat.add_assoc]⟩

theorem texts_statementsWatched {first : Nat} {ss : List Statement}
    (h : d.statements verb m first records = .ok ss) :
    (d.statementsWatched verb m first records).handed.map d.text = ss.map Statement.text := by
  induction records generalizing first ss with
  | nil =>
    cases h
    rfl
  | cons record rest ih =>
    obtain ⟨ha, rfl⟩ := statements_eq_ok_iff.1 h
    rw [List.forall_mem_cons] at ha
    rw [statementsWatched_cons, numbered_eq_ok_iff.2 ⟨ha.1, rfl⟩, wordedFrom_cons]
    dsimp only
    rw [List.map_cons, List.map_cons, ih (statements_eq_ok_iff.2 ⟨ha.2, rfl⟩), worded,
      wording]

theorem batchWatched_eq_error {e : Error} (h : checkKeys verb m = .error e) (hr : records ≠ []) :
    d.batchWatched verb m records = ⟨[], .error e⟩ := by
  unfold batchWatched
  rw [if_neg (by simpa using hr), h]
  rfl

theorem handed_batchWatched_of_checkKeys (h : checkKeys verb m = .ok ()) (hr : records ≠ []) :
    (d.batchWatched verb m records).handed = (d.statementsWatched verb m 0 records).handed := by
  unfold batchWatched
  rw [if_neg (by simpa using hr), h]
  simp only [Watched.ofExcept, Watched.bind_ok, Watched.bind_pure_eq]
  rfl

theorem handed_batchWatched {i : Nat} {p : Parts}
    (h : (d.batchWatched verb m records).handed[i]? = some p) :
    (verb.needsKeys = true → m.hasKeys = true) ∧ ∃ record, records[i]? = some record ∧
      verb.Accepts m record ∧ p = verb.parts m (some i) (m.fields.zip record) := by
  by_cases hr : records = []
  · rw [hr] at h
    cases h
  · cases hk : checkKeys verb m with
    | error e =>
      rw [batchWatched_eq_error hk hr] at h
      cases h
    | ok u =>
      rw [handed_batchWatched_of_checkKeys hk hr] at h
      obtain ⟨record, hrecord, ha, rfl⟩ := handed_statementsWatched h
      exact ⟨checkKeys_eq_ok_iff.1 hk, record, hrecord, ha, by rw [Nat.zero_add]⟩

theorem texts_batchWatched {s : Statement} (h : d.batch verb m records = .ok (some s)) :
    (d.batchWatched verb m records).handed.length = records.length ∧
      s.text = Statement.joinTexts ((d.batchWatched verb m records).handed.map d.text) := by
  obtain ⟨hr, hk, ha, rfl⟩ := batch_eq_ok_some_iff.1 h
  have htexts := texts_statementsWatched (statements_eq_ok_iff.2 ⟨ha, rfl⟩ :
    d.statements verb m 0 records = .ok (d.wordedFrom verb m 0 records))
  rw [handed_batchWatched_of_checkKeys (checkKeys_eq_ok_iff.2 hk) hr]
  constructor
  · have hlength := congrArg List.length htexts
    simpa [wordedFrom] using hlength
  · rw [htexts, Statement.concat]

end Dialect

end RecordMapper
