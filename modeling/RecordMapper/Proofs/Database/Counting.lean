import RecordMapper.Proofs.Database.Operations
import RecordMapper.Proofs.Mapping.Build
import RecordMapper.Proofs.Predicate.Cuts
import RecordMapper.Proofs.Statement.Batch
/-!
# How a recorder counts statements

With nothing queued a recorder answers a write with the number of pieces of its text, as if each were a
statement that affects one row. No name with a line break in it means no piece too many for records: one
for each. A deletion by a filter is one statement as well, but it counts once more for every separator in
the text of a constant, since a literal is taken apart like anything else.
-/

namespace RecordMapper

open Recorder (HasSeparators)

structure EntityMapping.OnOneLine (m : EntityMapping) : Prop where
  table : '\n' ∉ m.table.toList
  columns : ∀ f ∈ m.fields, '\n' ∉ f.column.toList
  sources : ∀ f ∈ m.fields, '\n' ∉ f.source.toList

theorem newline_notMem_append {a b : String} (ha : '\n' ∉ a.toList) (hb : '\n' ∉ b.toList) :
    '\n' ∉ (a ++ b).toList := by
  rw [String.toList_append, List.mem_append, not_or]
  exact ⟨ha, hb⟩

section Wording

variable {m : EntityMapping} {index : Option Nat} {bound : List FieldValue}

theorem newline_notMem_placeholder (h : m.OnOneLine) {f : FieldMapping} (hf : f ∈ m.fields) :
    '\n' ∉ (FieldValue.placeholder index f).toList := by
  have hname : '\n' ∉ ("@" ++ f.source).toList :=
    newline_notMem_append (by decide) (h.sources f hf)
  cases index with
  | none => exact hname
  | some i =>
    refine newline_notMem_append (newline_notMem_append hname (by decide)) ?_
    rw [Decimal.natText, String.toList_ofList]
    intro hmem
    exact ne_newline_of_isDigit (Decimal.isDigit_of_mem_digits hmem) rfl

theorem newline_notMem_columns (h : m.OnOneLine) (hb : ∀ b ∈ bound, b.1 ∈ m.fields) :
    ∀ a ∈ bound.map (FieldValue.assignment index),
      '\n' ∉ a.column.toList ∧ '\n' ∉ a.placeholder.toList := by
  rw [List.forall_mem_map]
  intro b hmem
  exact ⟨h.columns b.1 (hb b hmem), newline_notMem_placeholder h (hb b hmem)⟩

theorem newline_notMem_equalities {separator : String} (hs : '\n' ∉ separator.toList)
    {assignments : List Assignment}
    (ha : ∀ a ∈ assignments, '\n' ∉ a.column.toList ∧ '\n' ∉ a.placeholder.toList) :
    '\n' ∉ (Assignment.equalities separator assignments).toList := by
  apply notMem_intercalate hs
  rw [List.forall_mem_map]
  intro a hmem
  obtain ⟨hcolumn, hplaceholder⟩ := ha a hmem
  exact newline_notMem_append (newline_notMem_append hcolumn (by decide)) hplaceholder

theorem newline_notMem_wording (h : m.OnOneLine) (hb : ∀ b ∈ bound, b.1 ∈ m.fields)
    (verb : Verb) : '\n' ∉ (Dialect.standard.wording verb m index bound).toList := by
  have hnames (p : FieldValue → Bool) :
      ∀ a ∈ (bound.filter p).map (FieldValue.assignment index),
        '\n' ∉ a.column.toList ∧ '\n' ∉ a.placeholder.toList :=
    newline_notMem_columns h fun b hmem => hb b (List.mem_of_mem_filter hmem)
  have htable (word : String) (hword : '\n' ∉ word.toList) : '\n' ∉ (word ++ m.table).toList :=
    newline_notMem_append hword h.table
  have hkeys : '\n' ∉ (Assignment.equalities " AND "
      ((bound.filter FieldValue.isKey).map (FieldValue.assignment index))).toList :=
    newline_notMem_equalities (by decide) (hnames _)
  cases verb with
  | insert =>
    change '\n' ∉ (m.insertion index bound).standard.toList
    unfold Insertion.standard
    split_ifs
    · exact newline_notMem_append (htable _ (by decide)) (by decide)
    · have hjoined (part : Assignment → String)
          (hpart : ∀ a ∈ (m.insertion index bound).columns, '\n' ∉ (part a).toList) :
          '\n' ∉ (String.intercalate ", " ((m.insertion index bound).columns.map part)).toList :=
        notMem_intercalate (by decide) (List.forall_mem_map.2 hpart)
      refine newline_notMem_append (newline_notMem_append (newline_notMem_append
        (newline_notMem_append (newline_notMem_append (htable _ (by decide)) (by decide)) ?_)
        (by decide)) ?_) (by decide)
      · exact hjoined _ fun a hmem => (hnames _ a hmem).1
      · exact hjoined _ fun a hmem => (hnames _ a hmem).2
  | update =>
    have hset : '\n' ∉ (Assignment.equalities ", "
        ((bound.filter FieldValue.isSet).map (FieldValue.assignment index))).toList :=
      newline_notMem_equalities (by decide) (hnames _)
    exact newline_notMem_append (newline_notMem_append (newline_notMem_append
      (newline_notMem_append (htable _ (by decide)) (by decide)) hset) (by decide)) hkeys
  | delete =>
    exact newline_notMem_append (newline_notMem_append (htable _ (by decide)) (by decide)) hkeys

theorem newline_notMem_worded (h : m.OnOneLine) (verb : Verb) (record : List Value) :
    '\n' ∉ (Dialect.standard.worded verb m index record).text.toList :=
  newline_notMem_wording h (fun _ hmem => (List.of_mem_zip hmem).1) verb

theorem pieces_concat_wordedFrom (h : m.OnOneLine) (verb : Verb) (first : Nat)
    {records : List (List Value)} (hne : records ≠ []) :
    Recorder.pieces (Statement.concat
      (Dialect.standard.wordedFrom verb m first records)).text.toList = records.length := by
  have htexts : ∀ text ∈ (Dialect.standard.wordedFrom verb m first records).map Statement.text,
      ∃ i record, text = (Dialect.standard.worded verb m (some i) record).text := by
    rw [List.forall_mem_map, Dialect.wordedFrom, List.forall_mem_map]
    intro r _
    exact ⟨r.2, r.1, rfl⟩
  have hsome : (Dialect.standard.wordedFrom verb m first records).map Statement.text ≠ [] := by
    simpa [Dialect.wordedFrom] using hne
  have hjoined : (Statement.concat (Dialect.standard.wordedFrom verb m first records)).text =
      String.intercalate Statement.separator
        ((Dialect.standard.wordedFrom verb m first records).map Statement.text) := by
    apply Statement.joinTexts_of_ne
    intro text hmem
    obtain ⟨i, record, rfl⟩ := htexts text hmem
    exact Dialect.text_standard_ne _
  have hone : ((Dialect.standard.wordedFrom verb m first records).map Statement.text).map
        (fun text => Recorder.pieces text.toList) =
      List.replicate records.length 1 := by
    rw [List.eq_replicate_iff]
    refine ⟨by simp [Dialect.wordedFrom], ?_⟩
    rw [List.forall_mem_map]
    intro text hmem
    obtain ⟨i, record, rfl⟩ := htexts text hmem
    exact Recorder.pieces_of_notMem (newline_notMem_worded h verb record)
  rw [hjoined, Recorder.pieces_intercalate hsome, hone]
  simp

end Wording

/-- A deletion by a fragment counts once, and once more for each separator of the fragment. -/
theorem pieces_deleteMatching {m : EntityMapping} (h : m.OnOneLine) {text : String} {n : Nat}
    (htext : HasSeparators text n) :
    Recorder.pieces (Dialect.standard.deleteMatching m text).text.toList = n + 1 := by
  have hbefore : '\n' ∉ ("DELETE FROM " ++ m.table ++ " WHERE ").toList :=
    newline_notMem_append (newline_notMem_append (by decide) h.table) (by decide)
  have hstatement : HasSeparators (Dialect.standard.deleteMatching m text).text (0 + n) :=
    (HasSeparators.of_notMem hbefore).append htext
  rw [hstatement.pieces, Nat.zero_add]

theorem Action.Asks.result_of_idle {db : Database Recorder}
    (hconnection : db.connection = Recorder.connection) {x : Action Recorder Nat}
    {told : List JournalLine} {s : Statement} (h : x.Asks db told ⟨.execute, s⟩ Response.toCount)
    {before : Recorder} (hqueue : before.queue = []) :
    (x before).result = .ok (Recorder.pieces s.text.toList) := by
  have hnext : before.next ⟨.execute, s⟩ = .ok (.count (Recorder.pieces s.text.toList)) := by
    rw [Recorder.next, hqueue]
    rfl
  rw [h before, hconnection]
  change (before.next ⟨.execute, s⟩).bind Response.toCount = _
  rw [hnext]
  rfl

/-- An operation fails before it asks the connection or asks what was built for it. -/
theorem Action.Follows.cases {σ : Type} {x : Action σ Nat} {db : Database σ}
    {told : List JournalLine} {built : Except Error Statement}
    (h : x.Follows db told (built.map fun s => some ⟨.execute, s⟩) Response.toCount) (state : σ) :
    (x state).state = state ∨
      ∃ s, built = .ok s ∧ x.Asks db told ⟨.execute, s⟩ Response.toCount := by
  cases built with
  | error e => exact .inl (congrArg Outcome.state (h state))
  | ok s => exact .inr ⟨s, rfl, h⟩

/-- An idle recorder counts one row for the statement of a record, and as many as there are records for a
batch. For a deletion by a filter it counts one row and one more for each separator in the text of a
constant, hence one exactly if no such text has a separator in it. -/
theorem recorder_counts_statements {τ : Type} [FieldTypes τ] {r : Repository Recorder τ}
    (hdatabase : r.database = ⟨.standard, Recorder.connection⟩)
    (hnames : r.model.declaration.OnOneLine) {before : Recorder} (hqueue : before.queue = []) :
    (∀ verb record, (r.write verb record before).state.log ≠ before.log →
      (r.write verb record before).result = .ok 1) ∧
    (∀ verb records m s, r.model.describe = .ok m →
      Dialect.standard.batch verb m (records.map (Record.toValues r.model.fields)) = .ok (some s) →
        (r.writeMany verb records before).result = .ok records.length ∧
        ∃ ss, Dialect.standard.statements verb m 0
            (records.map (Record.toValues r.model.fields)) = .ok ss ∧
          s = Statement.concat ss ∧ ss.length = records.length) ∧
    ∀ filter, (r.deleteWhere filter before).state.log ≠ before.log →
      (r.deleteWhere filter before).result = .ok (filter.textSeparators + 1) ∧
      ((r.deleteWhere filter before).result = .ok 1 ↔
        ∀ t ∈ filter.texts, ¬ Statement.separator.toList <:+: t.toList) := by
  have hdialect : r.database.dialect = .standard := by rw [hdatabase]
  have hconnection : r.database.connection = Recorder.connection := by rw [hdatabase]
  have honeline : ∀ m, r.model.describe = .ok m → m.OnOneLine := by
    intro m hm
    rwa [← (EntityMapping.build_eq_ok_iff.1 hm).2]
  refine ⟨?_, ?_, ?_⟩
  · intro verb record hreached
    rcases (r.follows_write verb record).cases before with hstate | ⟨s, hs, hasks⟩
    · exact absurd (congrArg Recorder.log hstate) hreached
    · obtain ⟨m, hm, hsingle⟩ := Model.written_eq_ok_iff.1 hs
      rw [hdialect] at hsingle
      obtain ⟨-, -, rfl⟩ := Dialect.single_eq_ok_iff.1 hsingle
      have hline : '\n' ∉ (Dialect.standard.worded verb m none
          (record.toValues r.model.fields)).text.toList :=
        newline_notMem_worded (honeline m hm) verb _
      rw [hasks.result_of_idle hconnection hqueue, Recorder.pieces_of_notMem hline]
  · intro verb records m s hm hbatch
    have hbuilt : r.model.writtenMany r.database.dialect verb records = .ok (some s) :=
      Model.writtenMany_eq_ok_iff.2 ⟨m, hm, hdialect ▸ hbatch⟩
    have hasks := r.follows_writeMany verb records
    rw [hbuilt] at hasks
    obtain ⟨hne, -, haccepts, rfl⟩ := Dialect.batch_eq_ok_some_iff.1 hbatch
    have hpieces := pieces_concat_wordedFrom (honeline m hm) verb 0 hne
    rw [List.length_map] at hpieces
    refine ⟨?_, _, Dialect.statements_eq_ok_iff.2 ⟨haccepts, rfl⟩, rfl, ?_⟩
    · rw [Action.Asks.result_of_idle hconnection hasks hqueue, hpieces]
    · simp [Dialect.wordedFrom]
  · intro filter hreached
    rcases (r.follows_deleteWhere filter).cases before with hstate | ⟨s, hs, hasks⟩
    · exact absurd (congrArg Recorder.log hstate) hreached
    · obtain ⟨m, hm, hdelete⟩ := Model.bind_describe_eq_ok_iff.1 hs
      rw [hdialect] at hdelete
      obtain ⟨text, htext, rfl⟩ := Except.map_eq_ok_iff.1 hdelete
      have hline := honeline m hm
      have hpieces := pieces_deleteMatching hline (Expr.hasSeparators_compile hline.columns htext)
      have hresult : (r.deleteWhere filter before).result = .ok (filter.textSeparators + 1) := by
        rw [hasks.result_of_idle hconnection hqueue, hpieces]
      refine ⟨hresult, ?_⟩
      rw [hresult, Except.ok.injEq, ← Expr.textSeparators_eq_zero_iff]
      omega

/-- An insertion, an update of two records, and a deletion by a filter with a separator in its text and a
lone line break in another. -/
theorem recorder_counts_statements_batch :
    let model : Model := ⟨"User", "User", none,
      [⟨"id", none, true, false, .int32⟩, ⟨"name", some "[name;]", false, false, .string⟩]⟩
    let r : Repository Recorder := ⟨⟨.standard, Recorder.connection⟩, model⟩
    let first : Record model.fields := ((1 : Int32), "ada;\n", ())
    let second : Record model.fields := ((2 : Int32), "", ())
    let filter : Expr := .binary .or (.binary .eq (.field "name") (.value (.string ";\n;\n")))
      (.startsWith (.field "name") (.value (.string "\n")))
    r.model.declaration.OnOneLine ∧ Recorder.empty.queue = [] ∧
      (r.write .insert first .empty).result = .ok 1 ∧
      (r.writeMany .update [first, second] .empty).result = .ok 2 ∧
      (r.deleteWhere filter .empty).result = .ok 3 := by
  intro model r first second filter
  have hnames : r.model.declaration.OnOneLine := ⟨by decide, by decide, by decide⟩
  have hqueue : Recorder.empty.queue = [] := rfl
  obtain ⟨hone, hmany, hfilter⟩ := recorder_counts_statements (r := r) rfl hnames hqueue
  refine ⟨hnames, hqueue, hone .insert first ?_, ?_, ?_⟩
  · intro h
    exact absurd (congrArg List.length h) (by decide)
  · exact (hmany .update [first, second] _ _ rfl rfl).1
  · refine (hfilter filter ?_).1
    intro h
    exact absurd (congrArg List.length h) (by decide)

/-- A deletion whose filter compares with a text that has a separator in it counts two rows. -/
theorem separator_in_constant_counted :
    let model : Model := ⟨"Log", "Log", none, [⟨"message", none, false, false, .string⟩]⟩
    let r : Repository Recorder := ⟨⟨.standard, Recorder.connection⟩, model⟩
    let filter : Expr := .binary .eq (.field "message") (.value (.string "a;\nb"))
    r.model.declaration.OnOneLine ∧
      filter.compile model.declaration = .ok "message = 'a;\nb'" ∧
      (r.deleteWhere filter .empty).result = .ok 2 := by
  refine ⟨⟨by decide, by decide, by decide⟩, rfl, rfl⟩

end RecordMapper
