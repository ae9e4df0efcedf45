import RecordMapper.Row
import RecordMapper.Proofs.Statement.Parameters
/-!
# What a statement leaves in a row

A store is taken to keep the values that a statement binds to the placeholders of columns, each under its
column. Columns of a sound mapping do not meet, so of each field the row then has what was written of it
or, if nothing was, what it had before.
-/

namespace RecordMapper

namespace Row

def insertAll (r : Row) (entries : List (String × Value)) : Row :=
  entries.foldl (fun r (column, v) => r.insert column v) r

variable {r : Row} {entries : List (String × Value)} {column : String} {v : Value}

theorem insertAll_cons {entry : String × Value} :
    r.insertAll (entry :: entries) = (r.insert entry.1 entry.2).insertAll entries := rfl

theorem get?_insertAll_of_notMem (h : column ∉ entries.map Prod.fst) :
    (r.insertAll entries).get? column = r.get? column := by
  induction entries generalizing r with
  | nil => rfl
  | cons entry rest ih =>
    rw [List.map_cons, List.mem_cons, not_or] at h
    rw [insertAll_cons, ih h.2, get?_insert, if_neg h.1]

theorem get?_insertAll_of_mem (hn : (entries.map Prod.fst).Nodup) (h : (column, v) ∈ entries) :
    (r.insertAll entries).get? column = some v := by
  induction entries generalizing r with
  | nil => cases h
  | cons entry rest ih =>
    rw [List.map_cons, List.nodup_cons] at hn
    rw [insertAll_cons]
    rcases List.mem_cons.1 h with rfl | h
    · rw [get?_insertAll_of_notMem hn.1, get?_insert, if_pos rfl]
    · exact ih hn.2 h

end Row

/-- What a statement writes through some of its placeholders: by column, the value that is bound. -/
def Statement.written (s : Statement) (assignments : List Assignment) : List (String × Value) :=
  assignments.map fun a => (a.column, (s.value? a.placeholder).getD .null)

namespace EntityMapping

def row (m : EntityMapping) (values : List Value) : Row :=
  Row.ofList ((m.fields.map FieldMapping.column).zip values)

variable {m : EntityMapping} {record values : List Value} {f : FieldMapping} {v : Value}

theorem nodup_zip_columns (hm : Sound m.fields) (ha : m.fields.length = record.length) :
    ((m.fields.zip record).map fun b => b.1.column).Nodup := by
  have hcolumns := hm.columns
  rwa [← List.map_fst_zip (Nat.le_of_eq ha), List.map_map] at hcolumns

theorem get?_row (hm : Sound m.fields) (ha : m.fields.length = values.length)
    (hf : m.ValueOf values f v) :
    (m.row values).get? f.column = some v := by
  have hentries : (m.fields.map FieldMapping.column).zip values =
      (m.fields.zip values).map fun b => (b.1.column, b.2) := by
    rw [List.zip_map_left]
    rfl
  refine Row.get?_insertAll_of_mem ?_ ?_
  · rw [hentries, List.map_map]
    exact nodup_zip_columns hm ha
  · rw [hentries]
    exact List.mem_map_of_mem (valueOf_iff.1 hf)

end EntityMapping

namespace Dialect

variable {d : Dialect} {verb : Verb} {m : EntityMapping} {record : List Value} {p : FieldValue → Bool}
  {r : Row} {f : FieldMapping} {v : Value}

theorem written_worded (hm : EntityMapping.Sound m.fields) (ha : verb.Accepts m record)
    (hp : ∀ b, p b = true → verb.binds b = true) :
    (d.worded verb m none record).written
        (((m.fields.zip record).filter p).map (FieldValue.assignment none)) =
      ((m.fields.zip record).filter p).map fun b => (b.1.column, b.2) := by
  rw [Statement.written, List.map_map]
  refine List.map_congr_left ?_
  intro b hb
  obtain ⟨hzip, hpb⟩ := List.mem_filter.1 hb
  have hparameter : FieldValue.parameter none b ∈ (d.worded verb m none record).parameters :=
    List.mem_map_of_mem (List.mem_filter.2 ⟨hzip, hp b hpb⟩)
  have hvalue := Statement.value?_of_mem (nodup_names_worded hm.sources ha) hparameter
  change (b.1.column, ((d.worded verb m none record).value? _).getD .null) = _
  exact congrArg (fun value => (b.1.column, Option.getD value .null)) hvalue

theorem get?_written (hm : EntityMapping.Sound m.fields) (ha : verb.Accepts m record)
    (hp : ∀ b, p b = true → verb.binds b = true) (hf : m.ValueOf record f v) :
    (r.insertAll ((d.worded verb m none record).written
        (((m.fields.zip record).filter p).map (FieldValue.assignment none)))).get? f.column =
      if p (f, v) = true then some v else r.get? f.column := by
  have hzip := EntityMapping.valueOf_iff.1 hf
  have hcolumns : ((m.fields.zip record).map fun b => b.1.column).Nodup :=
    EntityMapping.nodup_zip_columns hm ha.arity
  rw [written_worded hm ha hp]
  split_ifs with hpf
  · refine Row.get?_insertAll_of_mem ?_ ?_
    · rw [List.map_map]
      exact hcolumns.sublist (List.filter_sublist.map _)
    · exact List.mem_map_of_mem (List.mem_filter.2 ⟨hzip, hpf⟩)
  · refine Row.get?_insertAll_of_notMem ?_
    rw [List.map_map]
    intro h
    obtain ⟨b, hb, hcolumn⟩ := List.mem_map.1 h
    obtain ⟨hbzip, hpb⟩ := List.mem_filter.1 hb
    have heq : b = (f, v) := List.inj_on_of_nodup_map hcolumns hbzip hzip hcolumn
    rw [heq] at hpb
    exact hpf hpb

end Dialect

end RecordMapper
