import RecordMapper.Statement.Record
import RecordMapper.Proofs.Predicate.Fragment
/-!
# What a verb makes of records

A record that a verb accepts becomes one statement, and whether it is accepted depends on neither its
number nor the dialect. A batch is made of the statements of its records, in order.
-/

namespace RecordMapper

/-- A record has a value for each field, and an update of it sets one. -/
structure Verb.Accepts (verb : Verb) (m : EntityMapping) (record : List Value) : Prop where
  arity : m.fields.length = record.length
  set : verb = .update → (m.fields.zip record).filter FieldValue.isSet ≠ []

namespace EntityMapping

variable {m : EntityMapping} {record : List Value} {bound : List FieldValue}

theorem bindings_eq_ok_iff :
    m.bindings record = .ok bound ↔
      m.fields.length = record.length ∧ m.fields.zip record = bound := by
  unfold bindings
  split_ifs with h
  · simp [h]
  · simp [h]

theorem requireKeys_eq_ok_iff : m.requireKeys = .ok () ↔ m.hasKeys = true := by
  unfold requireKeys
  split_ifs with h
  · simp [h]
  · simp [h]

end EntityMapping

namespace Dialect

variable {d : Dialect} {verb : Verb} {m : EntityMapping}

def worded (d : Dialect) (verb : Verb) (m : EntityMapping) (index : Option Nat)
    (record : List Value) : Statement :=
  ⟨d.wording verb m index (m.fields.zip record),
    ((m.fields.zip record).filter verb.binds).map (FieldValue.parameter index)⟩

def wordedFrom (d : Dialect) (verb : Verb) (m : EntityMapping) (first : Nat)
    (records : List (List Value)) : List Statement :=
  (records.zipIdx first).map fun r => d.worded verb m (some r.2) r.1

theorem wordedFrom_cons (first : Nat) (record : List Value) (rest : List (List Value)) :
    d.wordedFrom verb m first (record :: rest) =
      d.worded verb m (some first) record :: d.wordedFrom verb m (first + 1) rest := by
  rw [wordedFrom, List.zipIdx_cons, List.map_cons]
  rfl

theorem text_standard_ne (p : Parts) : standard.text p ≠ "" := by
  cases p with
  | insertion p =>
    simp only [text, standard, Insertion.standard]
    split_ifs <;> simp
  | modification p => simp [text, standard, Modification.standard]
  | deletion p => simp [text, standard, Deletion.standard]

theorem numbered_eq_ok_iff {index : Option Nat} {record : List Value} {s : Statement} :
    d.numbered verb m index record = .ok s ↔
      verb.Accepts m record ∧ d.worded verb m index record = s := by
  rw [numbered_eq]
  cases hb : m.bindings record with
  | error e =>
    constructor
    · intro h; cases h
    · rintro ⟨ha, -⟩
      rw [EntityMapping.bindings_eq_ok_iff.2 ⟨ha.arity, rfl⟩] at hb
      cases hb
  | ok bound =>
    obtain ⟨harity, rfl⟩ := EntityMapping.bindings_eq_ok_iff.1 hb
    dsimp only
    split_ifs with hset
    · constructor
      · intro h; cases h
      · rintro ⟨ha, -⟩
        exact absurd (List.isEmpty_iff.1 hset.2) (ha.set hset.1)
    · rw [Except.ok.injEq, worded]
      constructor
      · intro h
        refine ⟨⟨harity, ?_⟩, h⟩
        intro hv he
        exact hset ⟨hv, List.isEmpty_iff.2 he⟩
      · exact And.right

theorem checkKeys_eq_ok_iff :
    checkKeys verb m = .ok () ↔ (verb.needsKeys = true → m.hasKeys = true) := by
  unfold checkKeys
  split_ifs with h
  · rw [EntityMapping.requireKeys_eq_ok_iff]
    simp [h]
  · simp [h]

theorem statements_eq_ok_iff {first : Nat} {records : List (List Value)} {ss : List Statement} :
    d.statements verb m first records = .ok ss ↔
      (∀ record ∈ records, verb.Accepts m record) ∧ d.wordedFrom verb m first records = ss := by
  induction records generalizing first ss with
  | nil => simp [statements_nil, wordedFrom]
  | cons record rest ih =>
    rw [wordedFrom_cons, statements_cons, List.forall_mem_cons]
    cases hs : d.numbered verb m (some first) record with
    | error e =>
      constructor
      · intro h; cases h
      · rintro ⟨⟨ha, -⟩, -⟩
        rw [numbered_eq_ok_iff.2 ⟨ha, rfl⟩] at hs
        cases hs
    | ok s =>
      obtain ⟨ha, rfl⟩ := numbered_eq_ok_iff.1 hs
      dsimp only
      rw [Except.map_eq_ok_iff]
      simp only [ih]
      constructor
      · rintro ⟨ss', ⟨har, rfl⟩, rfl⟩
        exact ⟨⟨ha, har⟩, rfl⟩
      · rintro ⟨⟨-, har⟩, rfl⟩
        exact ⟨_, ⟨har, rfl⟩, rfl⟩

theorem single_eq_ok_iff {record : List Value} {s : Statement} :
    d.single verb m record = .ok s ↔
      (verb.needsKeys = true → m.hasKeys = true) ∧ verb.Accepts m record ∧
        d.worded verb m none record = s := by
  rw [single_eq, ← checkKeys_eq_ok_iff, ← numbered_eq_ok_iff]
  cases checkKeys verb m with
  | error e => simp
  | ok u => simp

theorem batch_eq_ok_some_iff {records : List (List Value)} {s : Statement} :
    d.batch verb m records = .ok (some s) ↔
      records ≠ [] ∧ (verb.needsKeys = true → m.hasKeys = true) ∧
        (∀ record ∈ records, verb.Accepts m record) ∧
          Statement.concat (d.wordedFrom verb m 0 records) = s := by
  rw [batch_eq, ← checkKeys_eq_ok_iff]
  cases records with
  | nil => simp
  | cons record rest =>
    cases checkKeys verb m with
    | error e => simp
    | ok u =>
      rw [if_neg (by simp)]
      dsimp only
      rw [Except.map_eq_ok_iff]
      constructor
      · rintro ⟨ss, hss, hs⟩
        obtain ⟨ha, rfl⟩ := statements_eq_ok_iff.1 hss
        exact ⟨List.cons_ne_nil _ _, rfl, ha, Option.some.inj hs⟩
      · rintro ⟨-, -, ha, rfl⟩
        exact ⟨_, statements_eq_ok_iff.2 ⟨ha, rfl⟩, rfl⟩

theorem batch_eq_ok_none_iff {records : List (List Value)} :
    d.batch verb m records = .ok none ↔ records = [] := by
  rw [batch_eq]
  cases records with
  | nil => simp
  | cons record rest =>
    rw [if_neg (by simp)]
    cases checkKeys verb m with
    | error e => simp
    | ok u =>
      dsimp only
      rw [Except.map_eq_ok_iff]
      simp

end Dialect

end RecordMapper
