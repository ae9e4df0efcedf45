import RecordMapper.Statement.Record
import RecordMapper.Proofs.Predicate.Fault
import RecordMapper.Proofs.Statement.Batch
/-!
# Why a verb fails

A verb fails on a mapping without the key that it needs, on a record of another length than the mapping,
and on an update that would set nothing; neither the dialect nor the number of a record matters. A batch
fails with what is said of the first of its records that is refused.
-/

namespace RecordMapper

/-- What is found first in a numbered list is found behind a part in which nothing is found, and its
number is the length of that part. -/
theorem findSome?_zipIdx_eq_some_iff {α β γ : Type} {f : α → Option β} {g : Nat → β → γ} {l : List α}
    {first : Nat} {c : γ} :
    ((l.zipIdx first).findSome? fun x => (f x.1).map (g x.2)) = some c ↔ ∃ before a after b,
      l = before ++ a :: after ∧ (∀ x ∈ before, f x = none) ∧ f a = some b ∧
        c = g (first + before.length) b := by
  rw [List.findSome?_eq_some_iff]
  constructor
  · rintro ⟨front, ⟨a, i⟩, back, hsplit, ha, hfront⟩
    obtain ⟨before, rest, rfl, rfl, hrest⟩ := List.zipIdx_eq_append_iff.1 hsplit
    obtain ⟨a', after, rfl, hhead, -⟩ := List.zipIdx_eq_cons_iff.1 hrest.symm
    obtain ⟨rfl, rfl⟩ := Prod.mk.inj hhead
    obtain ⟨b, hb, rfl⟩ := Option.map_eq_some_iff.1 ha
    refine ⟨before, a, after, b, rfl, ?_, hb, rfl⟩
    intro x hx
    rw [← List.zipIdx_map_fst first before] at hx
    obtain ⟨y, hy, rfl⟩ := List.mem_map.1 hx
    exact Option.map_eq_none_iff.1 (hfront y hy)
  · rintro ⟨before, a, after, b, rfl, hbefore, hb, rfl⟩
    refine ⟨before.zipIdx first, (a, first + before.length),
      after.zipIdx (first + before.length + 1), ?_, ?_, ?_⟩
    · rw [List.zipIdx_append, List.zipIdx_cons]
    · rw [hb]
      rfl
    · intro x hx
      rw [hbefore x.1 (List.fst_mem_of_mem_zipIdx hx)]
      rfl

/-- What is wrong with a record, for a mapping that has the key that the verb needs. -/
def Verb.refusal? (verb : Verb) (m : EntityMapping) (record : List Value) : Option Error :=
  (failure? (m.bindings record)).or
    (if verb = .update ∧ ((m.fields.zip record).filter FieldValue.isSet).isEmpty then
      some m.nothingToUpdate
    else none)

theorem Verb.refusal?_of_length {verb : Verb} {m : EntityMapping} {record : List Value} {err : Error}
    (hlength : m.fields.length = record.length) (h : verb.refusal? m record = some err) :
    err = m.nothingToUpdate := by
  have hbindings : failure? (m.bindings record) = none :=
    failure?_eq_none_iff.2 ⟨_, EntityMapping.bindings_eq_ok_iff.2 ⟨hlength, rfl⟩⟩
  rw [refusal?, hbindings, Option.none_or] at h
  split_ifs at h
  exact (Option.some.inj h).symm

namespace Dialect

variable {d : Dialect} {verb : Verb} {m : EntityMapping}

theorem failure?_checkKeys :
    failure? (checkKeys verb m) =
      if verb.needsKeys = true ∧ m.hasKeys = false then some (Error.ofCause (.noKeyDefined m.name))
      else none := by
  unfold checkKeys EntityMapping.requireKeys
  cases verb.needsKeys <;> cases m.hasKeys <;> rfl

theorem failure?_numbered (d : Dialect) (verb : Verb) (m : EntityMapping) (index : Option Nat)
    (record : List Value) :
    failure? (d.numbered verb m index record) = verb.refusal? m record := by
  rw [numbered_eq]
  unfold Verb.refusal?
  cases hb : m.bindings record with
  | error e => rfl
  | ok bound =>
    obtain rfl : m.fields.zip record = bound := by
      unfold EntityMapping.bindings at hb
      split_ifs at hb
      exact Except.ok.inj hb
    dsimp only [failure?, Option.none_or]
    split_ifs <;> rfl

theorem failure?_single {record : List Value} :
    failure? (d.single verb m record) =
      (failure? (checkKeys verb m)).or (verb.refusal? m record) := by
  rw [single_eq]
  cases checkKeys verb m with
  | error e => rfl
  | ok u => exact d.failure?_numbered verb m none record

def batchContext (i : Nat) (e : Error) : Error :=
  e.context ("record " ++ Decimal.natText i ++ " of batch")

theorem failure?_statements {first : Nat} {records : List (List Value)} :
    failure? (d.statements verb m first records) =
      (records.zipIdx first).findSome? fun r => (verb.refusal? m r.1).map (batchContext r.2) := by
  induction records generalizing first with
  | nil => rfl
  | cons record rest ih =>
    rw [List.zipIdx_cons, List.findSome?_cons, ← ih,
      ← d.failure?_numbered verb m (some first) record, statements_cons]
    cases d.numbered verb m (some first) record with
    | error e => rfl
    | ok s => cases d.statements verb m (first + 1) rest <;> rfl

theorem failure?_batch {records : List (List Value)} (h : records ≠ []) :
    failure? (d.batch verb m records) = (failure? (checkKeys verb m)).or
      (records.zipIdx.findSome? fun r => (verb.refusal? m r.1).map (batchContext r.2)) := by
  rw [batch_eq]
  rw [if_neg (by simpa using h)]
  cases checkKeys verb m with
  | error e => rfl
  | ok u =>
    rw [failure?_map, failure?_statements]
    rfl

theorem eq_of_checkKeys {err : Error} (h : failure? (checkKeys verb m) = some err) :
    err = Error.ofCause (.noKeyDefined m.name) := by
  rw [failure?_checkKeys] at h
  split_ifs at h
  exact (Option.some.inj h).symm

theorem eq_of_single_error {record : List Value} {err : Error}
    (hlength : m.fields.length = record.length) (h : d.single verb m record = .error err) :
    err = Error.ofCause (.noKeyDefined m.name) ∨ err = m.nothingToUpdate := by
  rw [← failure?_eq_some_iff, failure?_single, Option.or_eq_some_iff] at h
  rcases h with hkeys | ⟨-, hrecord⟩
  · exact .inl (eq_of_checkKeys hkeys)
  · exact .inr (Verb.refusal?_of_length hlength hrecord)

theorem eq_of_batch_error {records : List (List Value)} {err : Error}
    (hlength : ∀ record ∈ records, m.fields.length = record.length)
    (h : d.batch verb m records = .error err) :
    err = Error.ofCause (.noKeyDefined m.name) ∨
      ∃ i < records.length, err = batchContext i m.nothingToUpdate := by
  have hne : records ≠ [] := by
    rintro rfl
    cases h
  rw [← failure?_eq_some_iff, failure?_batch hne, Option.or_eq_some_iff] at h
  rcases h with hkeys | ⟨-, hrecords⟩
  · exact .inl (eq_of_checkKeys hkeys)
  · obtain ⟨⟨record, i⟩, hmem, hrecord⟩ := List.exists_of_findSome?_eq_some hrecords
    obtain ⟨e, he, rfl⟩ := Option.map_eq_some_iff.1 hrecord
    obtain ⟨-, hi, hget⟩ := List.mem_zipIdx hmem
    have hin : record ∈ records := by
      rw [hget]
      exact List.getElem_mem _
    rw [Verb.refusal?_of_length (hlength record hin) he]
    exact .inr ⟨i, by simpa using hi, rfl⟩

theorem contexts_of_refusal? {record : List Value} {err : Error}
    (h : verb.refusal? m record = some err) : err.contexts = [] := by
  rw [Verb.refusal?, Option.or_eq_some_iff] at h
  rcases h with hbindings | ⟨-, hset⟩
  · rw [failure?_eq_some_iff, EntityMapping.bindings] at hbindings
    split_ifs at hbindings
    rw [← Except.error.inj hbindings]
    rfl
  · split_ifs at hset
    rw [← Option.some.inj hset]
    rfl

section Keyed

variable (hkeys : verb.needsKeys = true → m.hasKeys = true)
include hkeys

theorem failure?_checkKeys_of_keys : failure? (checkKeys verb m) = none :=
  failure?_eq_none_iff.2 ⟨(), checkKeys_eq_ok_iff.2 hkeys⟩

theorem failure?_single_of_keys {record : List Value} :
    failure? (d.single verb m record) = verb.refusal? m record := by
  rw [failure?_single, failure?_checkKeys_of_keys hkeys, Option.none_or]

/-- The records before the one that is named are each accepted alone. -/
theorem batch_eq_error_iff {records : List (List Value)} {err : Error} (hne : records ≠ []) :
    d.batch verb m records = .error err ↔ ∃ before record after e,
      records = before ++ record :: after ∧ (∀ r ∈ before, ∃ s, d.single verb m r = .ok s) ∧
        d.single verb m record = .error e ∧ err = batchContext before.length e := by
  rw [← failure?_eq_some_iff, failure?_batch hne, failure?_checkKeys_of_keys hkeys,
    Option.none_or, findSome?_zipIdx_eq_some_iff]
  simp only [← failure?_eq_some_iff, ← failure?_eq_none_iff, failure?_single_of_keys hkeys,
    Nat.zero_add]

theorem contexts_of_single_error {record : List Value} {err : Error}
    (h : d.single verb m record = .error err) : err.contexts = [] := by
  rw [← failure?_eq_some_iff, failure?_single_of_keys hkeys] at h
  exact contexts_of_refusal? h

end Keyed

theorem single_ok_of_batch_ok {records : List (List Value)} {result : Option Statement}
    (h : d.batch verb m records = .ok result) {record : List Value} (hmem : record ∈ records) :
    ∃ s, d.single verb m record = .ok s := by
  cases result with
  | none =>
    rw [batch_eq_ok_none_iff.1 h] at hmem
    cases hmem
  | some s =>
    obtain ⟨-, hkeys, haccepts, -⟩ := batch_eq_ok_some_iff.1 h
    exact ⟨_, single_eq_ok_iff.2 ⟨hkeys, haccepts record hmem, rfl⟩⟩

theorem exists_batch_error_iff (hkeys : verb.needsKeys = true → m.hasKeys = true)
    {records : List (List Value)} (hne : records ≠ []) :
    (∃ err, d.batch verb m records = .error err) ↔
      ∃ record ∈ records, ∃ e, d.single verb m record = .error e := by
  constructor
  · rintro ⟨err, herr⟩
    obtain ⟨before, record, after, e, rfl, -, he, -⟩ := (batch_eq_error_iff hkeys hne).1 herr
    exact ⟨record, by simp, e, he⟩
  · rintro ⟨record, hmem, e, he⟩
    cases hbatch : d.batch verb m records with
    | error err => exact ⟨err, rfl⟩
    | ok result =>
      obtain ⟨s, hs⟩ := single_ok_of_batch_ok hbatch hmem
      rw [hs] at he
      cases he

theorem error_of_keyless (hneeds : verb.needsKeys = true) (hkeyless : m.hasKeys = false) :
    (∀ record, d.single verb m record = .error (Error.ofCause (.noKeyDefined m.name))) ∧
      ∀ records, records ≠ [] →
        d.batch verb m records = .error (Error.ofCause (.noKeyDefined m.name)) := by
  have hcheck : failure? (checkKeys verb m) = some (Error.ofCause (.noKeyDefined m.name)) := by
    rw [failure?_checkKeys, if_pos ⟨hneeds, hkeyless⟩]
  constructor
  · intro record
    rw [← failure?_eq_some_iff, failure?_single, hcheck, Option.some_or]
  · intro records hne
    rw [← failure?_eq_some_iff, failure?_batch hne, hcheck, Option.some_or]

end Dialect

/-- In whatever dialect, a batch that is not empty fails exactly if one of its records fails alone, and
then as the first such record does, under one context with its number. Only a verb without the key that
it needs fails as a whole, without a context and whatever the records are. -/
theorem batch_fails_with_first_failure (d : Dialect) (verb : Verb) (m : EntityMapping)
    {records : List (List Value)} (hne : records ≠ []) :
    ((verb.needsKeys = true → m.hasKeys = true) →
      ((∃ err, d.batch verb m records = .error err) ↔
        ∃ record ∈ records, ∃ e, d.single verb m record = .error e) ∧
      ∀ err, d.batch verb m records = .error err ↔ ∃ before record after e,
        records = before ++ record :: after ∧ (∀ r ∈ before, ∃ s, d.single verb m r = .ok s) ∧
          d.single verb m record = .error e ∧ e.contexts = [] ∧ err.kind = e.kind ∧
          err = e.context ("record " ++ Decimal.natText before.length ++ " of batch")) ∧
    (verb.needsKeys = true → m.hasKeys = false →
      d.batch verb m records = .error (Error.ofCause (.noKeyDefined m.name)) ∧
        ∀ record, d.single verb m record = .error (Error.ofCause (.noKeyDefined m.name))) := by
  constructor
  · intro hkeys
    refine ⟨Dialect.exists_batch_error_iff hkeys hne, fun err => ?_⟩
    rw [Dialect.batch_eq_error_iff hkeys hne]
    constructor
    · rintro ⟨before, record, after, e, hsplit, hbefore, he, rfl⟩
      exact ⟨before, record, after, e, hsplit, hbefore, he,
        Dialect.contexts_of_single_error hkeys he, rfl, rfl⟩
    · rintro ⟨before, record, after, e, hsplit, hbefore, he, -, -, rfl⟩
      exact ⟨before, record, after, e, hsplit, hbefore, he, rfl⟩
  · intro hneeds hkeyless
    obtain ⟨hsingle, hbatch⟩ := Dialect.error_of_keyless (d := d) hneeds hkeyless
    exact ⟨hbatch records hne, hsingle⟩

/-- An update that sets nothing stands before a record that is too short and behind one that is accepted;
without a key neither is looked at. -/
theorem batch_fails_with_first_failure_second :
    let key : FieldMapping := ⟨"id", none, true, true⟩
    let name : FieldMapping := ⟨"name", none, false, false⟩
    let m : EntityMapping := ⟨"Part", none, [key, name]⟩
    let keyless : EntityMapping := ⟨"Log", none, [name]⟩
    let records : List (List Value) :=
      [[.int32 1, .string "a"], [.int32 2, .null], [.int32 3], [.int32 4, .string "d"]]
    Dialect.standard.batch .update m records =
        .error ⟨[.adhoc "record 1 of batch"], m.nothingToUpdate.root⟩ ∧
      Dialect.standard.batch .delete keyless records =
        .error (Error.ofCause (.noKeyDefined "Log")) := by
  intro key name m keyless records
  have hne : records ≠ [] := List.cons_ne_nil _ _
  obtain ⟨-, hfirst⟩ := (batch_fails_with_first_failure Dialect.standard .update m hne).1 fun _ => rfl
  constructor
  · refine (hfirst _).2 ⟨[[.int32 1, .string "a"]], [.int32 2, .null],
      [[.int32 3], [.int32 4, .string "d"]], m.nothingToUpdate, rfl, ?_, rfl, rfl, rfl, rfl⟩
    intro r hr
    rw [List.mem_singleton.1 hr]
    exact ⟨_, rfl⟩
  · exact ((batch_fails_with_first_failure Dialect.standard .delete keyless hne).2 rfl rfl).1

end RecordMapper
