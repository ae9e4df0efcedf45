import RecordMapper.Proofs.Statement.Parameters
import RecordMapper.Proofs.Text.Joined
import RecordMapper.Proofs.Text.Placeholders
import Mathlib.Data.List.Perm.Basic
/-!
# What a text refers to

The standard texts of a record mention the bound fields in their order, except that an update mentions
what it sets before its key. A batch goes through its records one after the other, so its text refers
to each parameter once and to nothing else.
-/

namespace RecordMapper

def Verb.ordered (verb : Verb) (bound : List FieldValue) : List FieldValue :=
  match verb with
  | .insert | .delete => bound
  | .update => bound.filter (fun b => !b.isKey) ++ bound.filter FieldValue.isKey

theorem Verb.ordered_perm (verb : Verb) (bound : List FieldValue) :
    (verb.ordered bound).Perm bound := by
  cases verb with
  | insert => exact .refl _
  | update => exact List.perm_append_comm.trans (List.filter_append_perm FieldValue.isKey bound)
  | delete => exact .refl _

theorem Verb.ordered_update (bound : List FieldValue) :
    Verb.update.ordered (bound.filter Verb.update.binds) =
      bound.filter FieldValue.isSet ++ bound.filter FieldValue.isKey := by
  have hset : ∀ b : FieldValue, (!b.isKey && Verb.update.binds b) = b.isSet := by
    intro b
    cases hk : b.isKey <;> simp_all [binds, FieldValue.isUpdated, FieldValue.isSet, FieldValue.isKey]
  have hkey : ∀ b : FieldValue, (b.isKey && Verb.update.binds b) = b.isKey := by
    intro b
    cases hk : b.isKey <;> simp [binds, FieldValue.isUpdated, hk]
  simp only [ordered, List.filter_filter, hset, hkey]

/-- No name of the table or of a column looks like a placeholder, and sources are words. -/
structure EntityMapping.Readable (m : EntityMapping) (l : Letters) : Prop where
  table : '@' ∉ m.table.toList
  columns : ∀ f ∈ m.fields, '@' ∉ f.column.toList
  sources : ∀ f ∈ m.fields, f.source ≠ "" ∧ ∀ c ∈ f.source.toList, l.word c = true

section Wording

variable {l : Letters} {m : EntityMapping} {index : Option Nat} {bound : List FieldValue}

open Letters (Mentions stops_of_boundary)

theorem mem_fields_of_filter (hb : ∀ b ∈ bound, b.1 ∈ m.fields) (p : FieldValue → Bool) :
    ∀ b ∈ bound.filter p, b.1 ∈ m.fields :=
  fun b hm => hb b (List.mem_of_mem_filter hm)

theorem mentions_placeholder (h : m.Readable l) {f : FieldMapping} (hf : f ∈ m.fields) :
    l.Mentions (FieldValue.placeholder index f) [FieldValue.placeholder index f] := by
  have hsource := (h.sources f hf).2
  cases index with
  | none => exact .name hsource
  | some i =>
    have hword : ∀ c ∈ (f.source ++ "_" ++ Decimal.natText i).toList, l.word c = true := by
      intro c hc
      simp only [String.toList_append, List.mem_append, Decimal.natText,
        String.toList_ofList] at hc
      rcases hc with (hc | hc) | hc
      · exact hsource c hc
      · have hc : c = '_' := by simpa using hc
        simp [Letters.word, hc]
      · simp [Letters.word, Decimal.isDigit_of_mem_digits hc]
    have hname := Mentions.name hword
    simpa only [FieldValue.placeholder, String.append_assoc] using hname

theorem mentions_placeholders (h : m.Readable l) (hb : ∀ b ∈ bound, b.1 ∈ m.fields) :
    l.Mentions
      (String.intercalate ", "
        ((bound.map (FieldValue.assignment index)).map Assignment.placeholder))
      (bound.map fun b => FieldValue.placeholder index b.1) := by
  rw [List.map_map]
  refine Mentions.intercalate_map (by decide) (by decide) ?_ fun b hb' => ?_
  · exact stops_of_boundary (by decide)
  · exact mentions_placeholder h (hb b hb')

theorem mentions_equalities (h : m.Readable l) (hb : ∀ b ∈ bound, b.1 ∈ m.fields)
    (index : Option Nat) {separator : String} (hs : '@' ∉ separator.toList) (hne : separator ≠ "")
    (hstop : l.Stops separator.toList) :
    l.Mentions (Assignment.equalities separator (bound.map (FieldValue.assignment index)))
      (bound.map fun b => FieldValue.placeholder index b.1) := by
  rw [Assignment.equalities, List.map_map]
  refine Mentions.intercalate_map hs hne hstop fun b hb' => ?_
  refine Mentions.plain_append ?_ (mentions_placeholder h (hb b hb'))
  rw [String.toList_append, List.mem_append, not_or]
  exact ⟨h.columns b.1 (hb b hb'), by decide⟩

theorem mentions_keys (h : m.Readable l) (hb : ∀ b ∈ bound, b.1 ∈ m.fields)
    (index : Option Nat) :
    l.Mentions (Assignment.equalities " AND "
        ((bound.filter FieldValue.isKey).map (FieldValue.assignment index)))
      ((bound.filter FieldValue.isKey).map fun b => FieldValue.placeholder index b.1) :=
  mentions_equalities h (mem_fields_of_filter hb FieldValue.isKey) index (by decide) (by decide)
    (stops_of_boundary (by decide))

theorem mentions_insertion (h : m.Readable l) (hb : ∀ b ∈ bound, b.1 ∈ m.fields) :
    l.Mentions (m.insertion index bound).standard
      ((bound.filter FieldValue.isInserted).map fun b => FieldValue.placeholder index b.1) := by
  have hb' := mem_fields_of_filter hb FieldValue.isInserted
  unfold Insertion.standard
  split_ifs with hempty
  · have hnone : bound.filter FieldValue.isInserted = [] := by
      simpa [EntityMapping.insertion] using hempty
    rw [hnone]
    refine Mentions.plain ?_
    simpa [EntityMapping.insertion] using h.table
  · have hcolumns : '@' ∉ (String.intercalate ", "
        ((m.insertion index bound).columns.map Assignment.column)).toList := by
      refine notMem_intercalate (by decide) ?_
      intro text ht
      rw [EntityMapping.insertion, List.map_map, List.mem_map] at ht
      obtain ⟨b, hm, rfl⟩ := ht
      exact h.columns b.1 (hb' b hm)
    refine Mentions.append_plain (Mentions.plain_append ?_ (mentions_placeholders h hb'))
      (by decide) (stops_of_boundary (by decide))
    simp only [String.toList_append, List.mem_append, not_or]
    exact ⟨⟨⟨⟨by decide, h.table⟩, by decide⟩, hcolumns⟩, by decide⟩

theorem mentions_modification (h : m.Readable l) (hb : ∀ b ∈ bound, b.1 ∈ m.fields) :
    l.Mentions (m.modification index bound).standard
      ((bound.filter FieldValue.isSet ++ bound.filter FieldValue.isKey).map
        fun b => FieldValue.placeholder index b.1) := by
  have hset : l.Mentions (Assignment.equalities ", " (m.modification index bound).set)
      ((bound.filter FieldValue.isSet).map fun b => FieldValue.placeholder index b.1) :=
    mentions_equalities h (mem_fields_of_filter hb FieldValue.isSet) index (by decide) (by decide)
      (stops_of_boundary (by decide))
  rw [Modification.standard, String.append_assoc, List.map_append]
  refine Mentions.append (Mentions.plain_append ?_ hset)
    (Mentions.plain_append (by decide) (mentions_keys h hb index)) ?_
  · simp only [String.toList_append, List.mem_append, not_or]
    exact ⟨⟨by decide, h.table⟩, by decide⟩
  · rw [String.toList_append]
    exact stops_of_boundary (by decide)

theorem mentions_deletion (h : m.Readable l) (hb : ∀ b ∈ bound, b.1 ∈ m.fields) :
    l.Mentions (m.deletion index bound).standard
      ((bound.filter FieldValue.isKey).map fun b => FieldValue.placeholder index b.1) := by
  refine Mentions.plain_append ?_ (mentions_keys h hb index)
  simp only [String.toList_append, List.mem_append, not_or]
  exact ⟨⟨by decide, h.table⟩, by decide⟩

theorem mentions_wording (h : m.Readable l) (hb : ∀ b ∈ bound, b.1 ∈ m.fields) (verb : Verb) :
    l.Mentions (Dialect.standard.wording verb m index bound)
      ((verb.ordered (bound.filter verb.binds)).map
        fun b => FieldValue.placeholder index b.1) := by
  cases verb with
  | insert => exact mentions_insertion h hb
  | update =>
    rw [Verb.ordered_update]
    exact mentions_modification h hb
  | delete => exact mentions_deletion h hb

theorem mentions_worded (h : m.Readable l) (verb : Verb) (record : List Value) :
    l.Mentions (Dialect.standard.worded verb m index record).text
      ((verb.ordered ((m.fields.zip record).filter verb.binds)).map
        fun b => FieldValue.placeholder index b.1) :=
  mentions_wording h (fun _ hb => (List.of_mem_zip hb).1) verb

theorem mentions_batch (h : m.Readable l) (verb : Verb) (records : List (List Value)) :
    l.Mentions (Statement.concat (Dialect.standard.wordedFrom verb m 0 records)).text
      (records.zipIdx.flatMap fun r =>
        (verb.ordered ((m.fields.zip r.1).filter verb.binds)).map
          fun b => FieldValue.placeholder (some r.2) b.1) := by
  have hne : ∀ text ∈ (Dialect.standard.wordedFrom verb m 0 records).map Statement.text,
      text ≠ "" := by
    intro text ht
    simp only [Dialect.wordedFrom, List.map_map, List.mem_map] at ht
    obtain ⟨r, -, rfl⟩ := ht
    exact Dialect.text_standard_ne _
  rw [Statement.concat, Statement.joinTexts_of_ne hne, Dialect.wordedFrom, List.map_map]
  refine Mentions.intercalate (by decide) (by decide) (stops_of_boundary (by decide)) ?_
  intro r _
  exact mentions_worded h verb r.1

end Wording

/-- The text refers to each parameter once and to nothing else, and it does so record by record: in the
order of the parameters or, for an update, first to what it sets and then to the key. -/
structure Statement.Refers (s : Statement) (l : Letters) (verb : Verb) (m : EntityMapping)
    (name : Nat → String → String) (records : List (List Value)) : Prop where
  once : (l.placeholders s.text).Nodup
  perm : (l.placeholders s.text).Perm s.names
  names : s.names = records.zipIdx.flatMap fun r =>
    ((m.fields.zip r.1).filter verb.binds).map fun b => name r.2 b.1.source
  text : l.placeholders s.text = records.zipIdx.flatMap fun r =>
    (verb.ordered ((m.fields.zip r.1).filter verb.binds)).map fun b => name r.2 b.1.source
  inOrder : verb ≠ .update → l.placeholders s.text = s.names

theorem Statement.refers_of_eq {s : Statement} {l : Letters} {verb : Verb} {m : EntityMapping}
    {name : Nat → String → String} {records : List (List Value)} (hnodup : s.names.Nodup)
    (hnames : s.names = records.zipIdx.flatMap fun r =>
      ((m.fields.zip r.1).filter verb.binds).map fun b => name r.2 b.1.source)
    (htext : l.placeholders s.text = records.zipIdx.flatMap fun r =>
      (verb.ordered ((m.fields.zip r.1).filter verb.binds)).map fun b => name r.2 b.1.source) :
    s.Refers l verb m name records := by
  have hperm : (l.placeholders s.text).Perm s.names := by
    rw [htext, hnames]
    refine List.Perm.flatMap_left _ fun r _ => ?_
    exact (verb.ordered_perm _).map _
  refine ⟨hperm.nodup_iff.2 hnodup, hperm, hnames, htext, ?_⟩
  intro hverb
  have hsame : ∀ bound, verb.ordered bound = bound := by
    intro bound
    cases verb with
    | insert => rfl
    | update => exact absurd rfl hverb
    | delete => rfl
  rw [htext, hnames]
  simp only [hsame]

/-- For a declaration that builds and whose names cannot be mistaken, the standard text of every verb,
for one record or a batch of any length, refers to exactly the parameters. -/
theorem standard_text_refers {declaration m : EntityMapping} (hbuild : declaration.build = .ok m)
    {l : Letters} (h : m.Readable l) (verb : Verb) :
    (∀ records s, Dialect.standard.batch verb m records = .ok (some s) →
      s.Refers l verb m (fun i source => "@" ++ source ++ "_" ++ Decimal.natText i) records) ∧
    (∀ record s, Dialect.standard.single verb m record = .ok s →
      s.Refers l verb m (fun _ source => "@" ++ source) [record]) := by
  obtain ⟨hsound, rfl⟩ := EntityMapping.build_eq_ok_iff.1 hbuild
  constructor
  · intro records s hs
    obtain ⟨-, -, ha, rfl⟩ := Dialect.batch_eq_ok_some_iff.1 hs
    refine Statement.refers_of_eq (Dialect.nodup_names_batch hsound.sources ha) ?_ ?_
    · rw [Dialect.names_concat_wordedFrom]
      simp only [Dialect.names_worded, List.map_map]
      rfl
    · exact (mentions_batch h verb records).placeholders_eq
  · intro record s hs
    obtain ⟨-, ha, rfl⟩ := Dialect.single_eq_ok_iff.1 hs
    refine Statement.refers_of_eq (Dialect.nodup_names_worded hsound.sources ha) ?_ ?_
    · rw [Dialect.names_worded, List.map_map, List.zipIdx_singleton, List.flatMap_singleton]
      rfl
    · rw [(mentions_worded h verb record).placeholders_eq, List.zipIdx_singleton,
        List.flatMap_singleton]
      rfl

/-- Names that begin one another: `@a_1` names the key of the second record and `@a_1_0` a field of the
first one. -/
theorem standard_text_refers_prefixed_names :
    let m : EntityMapping := ⟨"Entry", none,
      [⟨"a", none, true, false⟩, ⟨"a_1", none, false, false⟩, ⟨"a_1_0", none, false, false⟩]⟩
    ∃ s, Dialect.standard.batch .update m
        [[.int32 1, .int32 2, .null], [.int32 3, .null, .int32 4]] = .ok (some s) ∧
      s.names = ["@a_0", "@a_1_0", "@a_1", "@a_1_0_1"] ∧
        Letters.ascii.placeholders s.text = ["@a_1_0", "@a_0", "@a_1_0_1", "@a_1"] := by
  intro m
  obtain ⟨s, hs⟩ : ∃ s, Dialect.standard.batch .update m
      [[.int32 1, .int32 2, .null], [.int32 3, .null, .int32 4]] = .ok (some s) := ⟨_, rfl⟩
  have hm : m.Readable Letters.ascii := by
    refine ⟨by decide, by decide, ?_⟩
    intro f hf
    simp only [m, List.mem_cons, List.not_mem_nil, or_false] at hf
    rcases hf with rfl | rfl | rfl
    · exact ⟨by decide, List.all_eq_true.1 rfl⟩
    · exact ⟨by decide, List.all_eq_true.1 rfl⟩
    · exact ⟨by decide, List.all_eq_true.1 rfl⟩
  have h := (standard_text_refers (rfl : m.build = .ok m) hm .update).1 _ s hs
  exact ⟨s, hs, h.names, h.text⟩

end RecordMapper
