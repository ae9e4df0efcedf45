import RecordMapper.Proofs.Mapping.Build
import RecordMapper.Proofs.Statement.Batch
/-!
# Which parameters a statement has

A name keeps the field and the record apart, whatever characters the source is made of: a number has no
underscore, so the last underscore of a name ends its source. With that each value that a verb writes
is found under its name, in a batch of any length.
-/

namespace RecordMapper

namespace Decimal

theorem natText_injective {i j : Nat} (h : natText i = natText j) : i = j := by
  have hdigits : digits i = digits j := String.ofList_injective h
  have hvalue := congrArg (Nat.ofDigitChars 10 · 0) hdigits
  simpa [digits] using hvalue

theorem underscore_notMem_digits (n : Nat) : '_' ∉ digits n := by
  intro h
  have hdigit := isDigit_of_mem_digits h
  revert hdigit
  decide

end Decimal

theorem append_cons_inj {α : Type} {a b s t : List α} {x : α} (hs : x ∉ s) (ht : x ∉ t)
    (h : a ++ x :: s = b ++ x :: t) : a = b ∧ s = t := by
  rcases List.append_eq_append_iff.1 h with ⟨c, rfl, hc⟩ | ⟨c, rfl, hc⟩
  · cases c with
    | nil => simpa using hc
    | cons y c =>
      rw [List.cons_append, List.cons.injEq] at hc
      exact absurd (by simp [hc.2]) hs
  · cases c with
    | nil => simpa [eq_comm] using hc
    | cons y c =>
      rw [List.cons_append, List.cons.injEq] at hc
      exact absurd (by simp [hc.2]) ht

namespace FieldValue

theorem placeholder_none_inj {f g : FieldMapping} (h : placeholder none f = placeholder none g) :
    f.source = g.source :=
  (String.append_right_inj "@").1 h

theorem placeholder_some_inj {i j : Nat} {f g : FieldMapping}
    (h : placeholder (some i) f = placeholder (some j) g) : f.source = g.source ∧ i = j := by
  have hchars := congrArg String.toList h
  simp only [placeholder, String.toList_append, Decimal.natText, String.toList_ofList,
    List.append_assoc] at hchars
  obtain ⟨hsource, hdigits⟩ := append_cons_inj (Decimal.underscore_notMem_digits i)
    (Decimal.underscore_notMem_digits j) (List.append_cancel_left hchars)
  exact ⟨String.toList_injective hsource,
    Decimal.natText_injective (congrArg String.ofList hdigits)⟩

theorem source_eq_of_placeholder_eq {index : Option Nat} {f g : FieldMapping}
    (h : placeholder index f = placeholder index g) : f.source = g.source := by
  cases index with
  | none => exact placeholder_none_inj h
  | some i => exact (placeholder_some_inj h).1

end FieldValue

/-- Which values a verb writes, from what it is for. -/
def Verb.Writes : Verb → FieldMapping → Value → Prop
  | insert, f, v => f.isAutoIncrement = false ∧ v ≠ .null
  | update, f, v => f.isKey = true ∨ f.isKey = false ∧ v ≠ .null
  | delete, f, _ => f.isKey = true

theorem Verb.binds_iff {verb : Verb} {b : FieldValue} :
    verb.binds b = true ↔ verb.Writes b.1 b.2 := by
  have hnull : b.2.isNull = false ↔ b.2 ≠ .null := by
    rw [← Bool.not_eq_true, Value.isNull_eq_true_iff]
  cases verb with
  | insert => simp [binds, Writes, FieldValue.isInserted, hnull]
  | update => simp [binds, Writes, FieldValue.isUpdated, FieldValue.isKey, FieldValue.isSet, hnull]
  | delete => rfl

/-- `v` stands in `record` where `f` stands among the fields. -/
def EntityMapping.ValueOf (m : EntityMapping) (record : List Value) (f : FieldMapping)
    (v : Value) : Prop :=
  ∃ k : Nat, m.fields[k]? = some f ∧ record[k]? = some v

theorem EntityMapping.valueOf_iff {m : EntityMapping} {record : List Value} {f : FieldMapping}
    {v : Value} : m.ValueOf record f v ↔ (f, v) ∈ m.fields.zip record := by
  rw [List.mem_iff_getElem?]
  constructor
  · rintro ⟨k, h⟩
    exact ⟨k, List.getElem?_zip_eq_some.2 h⟩
  · rintro ⟨k, h⟩
    exact ⟨k, List.getElem?_zip_eq_some.1 h⟩

namespace Statement

variable {s : Statement}

theorem value?_of_mem (hn : s.names.Nodup) {p : Parameter} (hp : p ∈ s.parameters) :
    s.value? p.name = some p.value := by
  unfold value?
  cases hq : s.parameters.find? fun q => q.name == p.name with
  | none => simpa using List.find?_eq_none.1 hq p hp
  | some q =>
    have hname : q.name = p.name := by simpa using List.find?_some hq
    have heq := List.inj_on_of_nodup_map hn (List.mem_of_find?_eq_some hq) hp hname
    rw [heq]
    rfl

/-- What `verb` writes of `records` stands in the statement under the name of its record's number and
its source, and nothing else does. -/
structure Carries (s : Statement) (verb : Verb) (m : EntityMapping)
    (name : Nat → String → String) (records : List (List Value)) : Prop where
  distinct : s.names.Nodup
  value : ∀ (i : Nat) record f v, records[i]? = some record → m.ValueOf record f v →
    verb.Writes f v → s.value? (name i f.source) = some v
  only : ∀ p ∈ s.parameters, ∃ (i : Nat) (record : List Value) (f : FieldMapping) (v : Value),
    records[i]? = some record ∧ m.ValueOf record f v ∧ verb.Writes f v ∧ p = ⟨name i f.source, v⟩

theorem carries_of_mem_iff {verb : Verb} {m : EntityMapping} {name : Nat → String → String}
    {records : List (List Value)} (hn : s.names.Nodup)
    (hmem : ∀ p, p ∈ s.parameters ↔
      ∃ (i : Nat) (record : List Value) (f : FieldMapping) (v : Value), records[i]? = some record ∧
        m.ValueOf record f v ∧ verb.Writes f v ∧ p = ⟨name i f.source, v⟩) :
    s.Carries verb m name records := by
  refine ⟨hn, ?_, fun p hp => (hmem p).1 hp⟩
  intro i record f v hr hf hw
  exact value?_of_mem hn ((hmem ⟨name i f.source, v⟩).2 ⟨i, record, f, v, hr, hf, hw, rfl⟩)

end Statement

namespace Dialect

variable {d : Dialect} {verb : Verb} {m : EntityMapping} {index : Option Nat}
  {record : List Value} {records : List (List Value)}

theorem mem_parameters_worded {p : Parameter} :
    p ∈ (d.worded verb m index record).parameters ↔ ∃ f v, m.ValueOf record f v ∧
      verb.Writes f v ∧ p = ⟨FieldValue.placeholder index f, v⟩ := by
  simp only [worded, List.mem_map, List.mem_filter, Verb.binds_iff]
  constructor
  · rintro ⟨⟨f, v⟩, ⟨hzip, hw⟩, rfl⟩
    exact ⟨f, v, EntityMapping.valueOf_iff.2 hzip, hw, rfl⟩
  · rintro ⟨f, v, hf, hw, rfl⟩
    exact ⟨(f, v), ⟨EntityMapping.valueOf_iff.1 hf, hw⟩, rfl⟩

theorem names_worded :
    (d.worded verb m index record).names =
      (((m.fields.zip record).filter verb.binds).map Prod.fst).map
        (FieldValue.placeholder index) := by
  simp [Statement.names, worded, FieldValue.parameter, Function.comp_def]

theorem nodup_names_worded (hm : (m.fields.map FieldMapping.source).Nodup)
    (ha : verb.Accepts m record) : (d.worded verb m index record).names.Nodup := by
  have hsub : (((m.fields.zip record).filter verb.binds).map Prod.fst).Sublist m.fields := by
    have h := (List.filter_sublist (p := verb.binds) (l := m.fields.zip record)).map Prod.fst
    rwa [List.map_fst_zip (Nat.le_of_eq ha.arity)] at h
  rw [names_worded]
  refine List.Nodup.map_on ?_ (hm.of_map.sublist hsub)
  intro f hf g hg h
  have hsource := FieldValue.source_eq_of_placeholder_eq h
  exact List.inj_on_of_nodup_map hm (hsub.subset hf) (hsub.subset hg) hsource

theorem names_concat_wordedFrom {first : Nat} :
    (Statement.concat (d.wordedFrom verb m first records)).names =
      (records.zipIdx first).flatMap fun r => (d.worded verb m (some r.2) r.1).names := by
  simp [Statement.names, Statement.concat, wordedFrom, List.flatMap_map, List.map_flatMap]

theorem nodup_names_batch (hm : (m.fields.map FieldMapping.source).Nodup)
    (ha : ∀ record ∈ records, verb.Accepts m record) :
    (Statement.concat (d.wordedFrom verb m 0 records)).names.Nodup := by
  rw [names_concat_wordedFrom, List.nodup_flatMap]
  constructor
  · intro r hr
    exact nodup_names_worded hm (ha r.1 (List.fst_mem_of_mem_zipIdx hr))
  · have hnumbers : (records.zipIdx.map Prod.snd).Nodup := by
      rw [List.zipIdx_map_snd]
      exact List.nodup_range'
    refine (List.pairwise_map.1 hnumbers).imp ?_
    intro r r' hne name hr hr'
    dsimp only at hr hr'
    rw [names_worded, List.mem_map] at hr hr'
    obtain ⟨f, -, rfl⟩ := hr
    obtain ⟨g, -, hg⟩ := hr'
    exact hne (FieldValue.placeholder_some_inj hg).2.symm

theorem mem_parameters_batch {p : Parameter} :
    p ∈ (Statement.concat (d.wordedFrom verb m 0 records)).parameters ↔
      ∃ (i : Nat) (record : List Value) (f : FieldMapping) (v : Value), records[i]? = some record ∧
        m.ValueOf record f v ∧ verb.Writes f v ∧ p = ⟨FieldValue.placeholder (some i) f, v⟩ := by
  simp only [Statement.concat, wordedFrom, List.mem_flatMap, List.mem_map]
  constructor
  · rintro ⟨s, ⟨⟨record, i⟩, hr, rfl⟩, hp⟩
    obtain ⟨f, v, h⟩ := mem_parameters_worded.1 hp
    exact ⟨i, record, f, v, List.mk_mem_zipIdx_iff_getElem?.1 hr, h⟩
  · rintro ⟨i, record, f, v, hr, h⟩
    exact ⟨_, ⟨(record, i), List.mk_mem_zipIdx_iff_getElem?.2 hr, rfl⟩,
      mem_parameters_worded.2 ⟨f, v, h⟩⟩

end Dialect

/-- For a declaration that builds, a batch of any length and a single statement carry exactly what the
verb writes; in a batch the number of a record stands behind the source. -/
theorem statement_carries_written {declaration m : EntityMapping}
    (hbuild : declaration.build = .ok m) (d : Dialect) (verb : Verb) :
    (∀ records s, d.batch verb m records = .ok (some s) →
      s.Carries verb m (fun i source => "@" ++ source ++ "_" ++ Decimal.natText i) records) ∧
    (∀ record s, d.single verb m record = .ok s →
      s.Carries verb m (fun _ source => "@" ++ source) [record]) := by
  obtain ⟨hsound, rfl⟩ := EntityMapping.build_eq_ok_iff.1 hbuild
  constructor
  · intro records s h
    obtain ⟨-, -, ha, rfl⟩ := Dialect.batch_eq_ok_some_iff.1 h
    refine Statement.carries_of_mem_iff (Dialect.nodup_names_batch hsound.sources ha) ?_
    intro p
    exact Dialect.mem_parameters_batch
  · intro record s h
    obtain ⟨-, ha, rfl⟩ := Dialect.single_eq_ok_iff.1 h
    refine Statement.carries_of_mem_iff (Dialect.nodup_names_worded hsound.sources ha) ?_
    intro p
    rw [Dialect.mem_parameters_worded]
    constructor
    · rintro ⟨f, v, hp⟩
      exact ⟨0, record, f, v, rfl, hp⟩
    · rintro ⟨i, r, f, v, hr, hp⟩
      have hi : r ∈ [record] := List.mem_of_getElem? hr
      rw [List.mem_singleton.1 hi] at hp
      exact ⟨f, v, hp⟩

/-- Sources that end as a numbered name does, in a batch that reaches a number of two digits. -/
theorem statement_carries_numbered_sources :
    let m : EntityMapping := ⟨"Entry", none,
      [⟨"a", none, true, false⟩, ⟨"a_1", none, false, false⟩, ⟨"a_1_0", none, false, false⟩]⟩
    let records : List (List Value) := (List.range 11).map fun n =>
      [.int32 (Int32.ofNat n), .int32 (Int32.ofNat (n + 100)), .null]
    ∃ s, Dialect.standard.batch .update m records = .ok (some s) ∧ s.names.Nodup ∧
      s.value? "@a_1_0" = some (.int32 100) ∧ s.value? "@a_10" = some (.int32 10) ∧
        s.value? "@a_1" = some (.int32 1) := by
  intro m records
  obtain ⟨s, hs⟩ : ∃ s, Dialect.standard.batch .update m records = .ok (some s) := ⟨_, rfl⟩
  have h := (statement_carries_written (rfl : m.build = .ok m) Dialect.standard .update).1 records s hs
  refine ⟨s, hs, h.distinct, ?_, ?_, ?_⟩
  · exact h.value 0 _ _ _ rfl ⟨1, rfl, rfl⟩ (.inr ⟨rfl, nofun⟩)
  · exact h.value 10 _ _ _ rfl ⟨0, rfl, rfl⟩ (.inl rfl)
  · exact h.value 1 _ _ _ rfl ⟨0, rfl, rfl⟩ (.inl rfl)

end RecordMapper
