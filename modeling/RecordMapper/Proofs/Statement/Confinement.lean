import RecordMapper.Proofs.Statement.Handover
/-!
# Writes stay with their record

Whatever the strategies are, an update or a deletion of a record is worded from parts that carry an
assignment for each key field of the mapping, in order, so a condition on the whole key. What is set or
inserted is exactly what the record holds. Without a key nothing is worded at all.
-/

namespace RecordMapper

namespace EntityMapping

/-- The assignments are those of the fields whose values in `record` are `chosen`, of each of them and
of no other field, in the order of declaration. -/
def Lists (m : EntityMapping) (index : Option Nat) (record : List Value)
    (chosen : FieldMapping → Value → Prop) (assignments : List Assignment) : Prop :=
  ∃ places : List Nat, places.Pairwise (· < ·) ∧
    (∀ k, k ∈ places ↔ ∃ f v, m.fields[k]? = some f ∧ record[k]? = some v ∧ chosen f v) ∧
    List.Forall₂ (fun k a => ∃ f, m.fields[k]? = some f ∧
      a = ⟨f.column, FieldValue.placeholder index f⟩) places assignments

def keyAssignments (m : EntityMapping) (index : Option Nat) : List Assignment :=
  m.keys.map fun f => ⟨f.column, FieldValue.placeholder index f⟩

/-- The parts from which a verb may be worded for one record. -/
inductive Confines (m : EntityMapping) (index : Option Nat) (record : List Value) :
    Verb → Parts → Prop where
  | insert {columns : List Assignment} :
      m.Lists index record (fun f v => f.isAutoIncrement = false ∧ v ≠ .null) columns →
      Confines m index record .insert (.insertion ⟨m.table, columns⟩)
  | update {set : List Assignment} :
      m.Lists index record (fun f v => f.isKey = false ∧ v ≠ .null) set → set ≠ [] →
      m.keyAssignments index ≠ [] →
      Confines m index record .update (.modification ⟨m.table, set, m.keyAssignments index⟩)
  | delete : m.keyAssignments index ≠ [] →
      Confines m index record .delete (.deletion ⟨m.table, .keys (m.keyAssignments index)⟩)

variable {m : EntityMapping} {index : Option Nat} {record : List Value}

theorem lists_filter (p : FieldValue → Bool) :
    m.Lists index record (fun f v => p (f, v) = true)
      (((m.fields.zip record).filter p).map (FieldValue.assignment index)) := by
  let numbered := (m.fields.zip record).zipIdx.filter fun x => p x.1
  have hfilter : (m.fields.zip record).filter p = numbered.map Prod.fst := by
    have h := List.filter_map (p := p) (f := Prod.fst) (l := (m.fields.zip record).zipIdx)
    rwa [List.zipIdx_map_fst] at h
  have hmem {k : Nat} {f : FieldMapping} {v : Value} :
      ((f, v), k) ∈ numbered ↔ m.fields[k]? = some f ∧ record[k]? = some v ∧ p (f, v) = true := by
    rw [List.mem_filter, List.mk_mem_zipIdx_iff_getElem?, List.getElem?_zip_eq_some, and_assoc]
  refine ⟨numbered.map Prod.snd, ?_, ?_, ?_⟩
  · have hall : ((m.fields.zip record).zipIdx.map Prod.snd).Pairwise (· < ·) := by
      rw [List.zipIdx_map_snd]
      exact List.pairwise_lt_range'
    exact hall.sublist (List.filter_sublist.map _)
  · intro k
    rw [List.mem_map]
    constructor
    · rintro ⟨⟨⟨f, v⟩, k⟩, hx, rfl⟩
      exact ⟨f, v, hmem.1 hx⟩
    · rintro ⟨f, v, h⟩
      exact ⟨((f, v), k), hmem.2 h, rfl⟩
  · rw [hfilter, List.forall₂_map_left_iff, List.forall₂_map_right_iff,
      List.forall₂_map_right_iff, List.forall₂_same]
    rintro ⟨⟨f, v⟩, k⟩ hx
    exact ⟨f, (hmem.1 hx).1, rfl⟩

theorem Lists.congr {chosen chosen' : FieldMapping → Value → Prop} {assignments : List Assignment}
    (h : m.Lists index record chosen assignments) (hc : ∀ f v, chosen f v ↔ chosen' f v) :
    m.Lists index record chosen' assignments := by
  obtain rfl : chosen = chosen' := by
    funext f v
    exact propext (hc f v)
  exact h

theorem map_filter_isKey_eq (h : m.fields.length = record.length) :
    ((m.fields.zip record).filter FieldValue.isKey).map (FieldValue.assignment index) =
      m.keyAssignments index := by
  have hkeys : m.keys = ((m.fields.zip record).filter FieldValue.isKey).map Prod.fst := by
    have hf := List.filter_map (p := FieldMapping.isKey) (f := Prod.fst)
      (l := m.fields.zip record)
    rwa [List.map_fst_zip (Nat.le_of_eq h)] at hf
  rw [keyAssignments, hkeys, List.map_map]
  rfl

theorem keyAssignments_ne_nil (h : m.hasKeys = true) : m.keyAssignments index ≠ [] := by
  rw [keyAssignments, Ne, List.map_eq_nil_iff]
  simpa [hasKeys] using h

theorem hasKeys_eq_false (h : ∀ f ∈ m.fields, f.isKey = false) : m.hasKeys = false := by
  have hkeys : m.keys = [] := by
    rw [keys, List.filter_eq_nil_iff]
    intro f hf
    rw [h f hf]
    exact Bool.false_ne_true
  simp [hasKeys, hkeys]

theorem confines_parts {verb : Verb} (ha : verb.Accepts m record)
    (hk : verb.needsKeys = true → m.hasKeys = true) :
    m.Confines index record verb (verb.parts m index (m.fields.zip record)) := by
  cases verb with
  | insert =>
    refine .insert ((lists_filter FieldValue.isInserted).congr ?_)
    intro f v
    simp [FieldValue.isInserted, ← Value.isNull_eq_true_iff]
  | update =>
    have hset : m.Lists index record (fun f v => f.isKey = false ∧ v ≠ .null)
        (((m.fields.zip record).filter FieldValue.isSet).map (FieldValue.assignment index)) := by
      refine (lists_filter FieldValue.isSet).congr ?_
      intro f v
      simp [FieldValue.isSet, ← Value.isNull_eq_true_iff]
    have hne : ((m.fields.zip record).filter FieldValue.isSet).map (FieldValue.assignment index) ≠ [] := by
      rw [Ne, List.map_eq_nil_iff]
      exact ha.set rfl
    have h := Confines.update hset hne (keyAssignments_ne_nil (hk rfl))
    rwa [← map_filter_isKey_eq ha.arity] at h
  | delete =>
    have hne : m.keyAssignments index ≠ [] := keyAssignments_ne_nil (hk rfl)
    have h : m.Confines index record .delete _ := .delete hne
    rwa [← map_filter_isKey_eq ha.arity] at h

end EntityMapping

/-- Whatever the dialect, each record that is handed over to be written is handed over with a value for
each field, and by its parts an update or a deletion names the whole key. Without a key neither is handed
over. Results are those of the building that is watched, and texts are worded from the parts. -/
theorem write_parts_confined (d : Dialect) (verb : Verb) (m : EntityMapping) :
    (∀ record, (d.singleWatched verb m record).result = d.single verb m record ∧
      (∀ p ∈ (d.singleWatched verb m record).handed,
        m.fields.length = record.length ∧ m.Confines none record verb p) ∧
      ∀ s, d.single verb m record = .ok s →
        [s.text] = (d.singleWatched verb m record).handed.map d.text) ∧
    (∀ records, (d.batchWatched verb m records).result = d.batch verb m records ∧
      (∀ (i : Nat) p, (d.batchWatched verb m records).handed[i]? = some p → ∃ record,
        records[i]? = some record ∧ m.fields.length = record.length ∧
          m.Confines (some i) record verb p) ∧
      ∀ s, d.batch verb m records = .ok (some s) →
        (d.batchWatched verb m records).handed.length = records.length ∧
          s.text = Statement.joinTexts ((d.batchWatched verb m records).handed.map d.text)) ∧
    (verb.needsKeys = true → (∀ f ∈ m.fields, f.isKey = false) →
      (∀ record, d.singleWatched verb m record =
        ⟨[], .error (Error.ofCause (.noKeyDefined m.name))⟩) ∧
      ∀ records, records ≠ [] → d.batchWatched verb m records =
        ⟨[], .error (Error.ofCause (.noKeyDefined m.name))⟩) := by
  refine ⟨?_, ?_, ?_⟩
  · intro record
    rw [Dialect.singleWatched_eq]
    cases hs : d.single verb m record with
    | error e =>
      refine ⟨rfl, ?_, ?_⟩
      · intro p hp; cases hp
      · intro s h; cases h
    | ok s =>
      obtain ⟨hk, ha, rfl⟩ := Dialect.single_eq_ok_iff.1 hs
      refine ⟨rfl, ?_, ?_⟩
      · intro p hp
        rw [List.mem_singleton.1 hp]
        exact ⟨ha.arity, EntityMapping.confines_parts ha hk⟩
      · intro s h
        rw [← Except.ok.inj h, Dialect.worded, Dialect.wording]
        rfl
  · intro records
    refine ⟨rfl, ?_, fun s h => Dialect.texts_batchWatched h⟩
    intro i p hp
    obtain ⟨hk, record, hr, ha, rfl⟩ := Dialect.handed_batchWatched hp
    exact ⟨record, hr, ha.arity, EntityMapping.confines_parts ha hk⟩
  · intro hverb hkeys
    have hcheck := Dialect.checkKeys_eq_error hverb (EntityMapping.hasKeys_eq_false hkeys)
    constructor
    · intro record
      rw [Dialect.singleWatched_eq, Dialect.single_eq, hcheck]
    · intro records hr
      exact Dialect.batchWatched_eq_error hcheck hr

/-- A key of two fields, one of them null, in a batch that fails at its second record, and a mapping
without a key. -/
theorem write_parts_confined_two_keys :
    let m : EntityMapping := ⟨"Part", none, [⟨"a", none, true, false⟩, ⟨"n", none, false, false⟩,
      ⟨"b", some "[b]", true, true⟩]⟩
    let keyless : EntityMapping := ⟨"Log", none, [⟨"text", none, false, true⟩]⟩
    let p : Parts := .modification ⟨"Part", [⟨"n", "@n_0"⟩], [⟨"a", "@a_0"⟩, ⟨"[b]", "@b_0"⟩]⟩
    let batch := Dialect.standard.batchWatched .update m [[.null, .int32 5, .int32 2], [.int32 1]]
    batch.handed = [p] ∧ m.Confines (some 0) [.null, .int32 5, .int32 2] .update p ∧
      Dialect.standard.batchWatched .delete keyless [[.string "x"], []] =
        ⟨[], .error (Error.ofCause (.noKeyDefined "Log"))⟩ := by
  intro m keyless p batch
  have hhanded : batch.handed = [p] := rfl
  refine ⟨hhanded, ?_, ?_⟩
  · obtain ⟨record, hr, -, hc⟩ := (write_parts_confined Dialect.standard .update m).2.1
      [[.null, .int32 5, .int32 2], [.int32 1]] |>.2.1 0 p rfl
    obtain rfl : [.null, .int32 5, .int32 2] = record := Option.some.inj hr
    exact hc
  · exact ((write_parts_confined Dialect.standard .delete keyless).2.2 rfl (by decide)).2 _ (by simp)

end RecordMapper
