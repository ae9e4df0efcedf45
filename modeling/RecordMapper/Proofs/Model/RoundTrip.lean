import RecordMapper.Proofs.Model.Fields
import RecordMapper.Proofs.Statement.Handover
import RecordMapper.Proofs.Statement.Overlay
/-!
# What is written is read back

A row that keeps what an insertion binds is read as the record that was inserted, except for the keys that
the store would have assigned. A row that keeps in addition what an update binds is read as the record of
the update, except for the fields in which that one has nothing. In between lie the choice of fields, the
names of placeholders, the columns and their overrides, and the way of each value to a dynamic one and back.
-/

namespace RecordMapper

namespace Record

def withoutAssigned (fields : List ModelField) (v : Record fields) : Record fields :=
  tabulate fields fun i =>
    if (fields.get i).mapping.isAutoIncrement = true then (fields.get i).type.default
    else get fields v i

/-- The record `u` with all that is set in `w`. -/
def updated (fields : List ModelField) (u w : Record fields) : Record fields :=
  tabulate fields fun i =>
    if (fields.get i).type.isUnset (get fields w i) = true then get fields u i else get fields w i

def SameKeys (fields : List ModelField) (u w : Record fields) : Prop :=
  ∀ i, (fields.get i).isKey = true → get fields u i = get fields w i

end Record

def EntityMapping.nullRow (m : EntityMapping) : Row := m.row (m.fields.map fun _ => .null)

namespace ModelField

variable {f : ModelField}

theorem isInserted_mapping (hf : f.type.isFlat = true) (x : f.type.Carrier) :
    FieldValue.isInserted (f.mapping, f.type.toValue x) =
      (!f.mapping.isAutoIncrement && !f.type.isUnset x) := by
  rw [FieldValue.isInserted, FieldType.isNull_toValue_of_isFlat hf]

theorem isSet_mapping (hf : f.type.isFlat = true) (x : f.type.Carrier) :
    FieldValue.isSet (f.mapping, f.type.toValue x) = (!f.isKey && !f.type.isUnset x) := by
  rw [FieldValue.isSet, FieldType.isNull_toValue_of_isFlat hf]
  rfl

end ModelField

namespace Model

variable {model : Model} {i : Fin model.fields.length} {v : Value}

theorem valueOf_declaration {record : List Value} (h : record[i.val]? = some v) :
    model.declaration.ValueOf record (model.fields.get i).mapping v := by
  refine ⟨i, ?_, h⟩
  rw [declaration, List.getElem?_map, List.getElem?_eq_getElem i.isLt]
  rfl

theorem length_toValues (v : Record model.fields) :
    model.declaration.fields.length = (v.toValues model.fields).length := by
  rw [Record.length_toValues, declaration, List.length_map]

variable (hm : EntityMapping.Sound model.declaration.fields)
include hm

theorem get?_nullRow (i : Fin model.fields.length) :
    model.declaration.nullRow.get? (model.fields.get i).column = some .null := by
  have hnull : (model.declaration.fields.map fun _ => Value.null)[i.val]? = some .null := by
    rw [declaration, List.getElem?_map, List.getElem?_map, List.getElem?_eq_getElem i.isLt]
    rfl
  exact EntityMapping.get?_row hm (List.length_map _).symm (valueOf_declaration hnull)

theorem get?_row_toValues (v : Record model.fields) (i : Fin model.fields.length) :
    (model.declaration.row (v.toValues model.fields)).get? (model.fields.get i).column =
      some ((model.fields.get i).type.toValue (v.get model.fields i)) :=
  EntityMapping.get?_row hm (length_toValues v) (valueOf_declaration (Record.getElem?_toValues v i))

theorem get?_written {d : Dialect} {verb : Verb} {p : FieldValue → Bool} {r : Row}
    {v : Record model.fields} (ha : verb.Accepts model.declaration (v.toValues model.fields))
    (hp : ∀ b, p b = true → verb.binds b = true) (i : Fin model.fields.length) :
    (r.insertAll ((d.worded verb model.declaration none (v.toValues model.fields)).written
        (((model.declaration.fields.zip (v.toValues model.fields)).filter p).map
          (FieldValue.assignment none)))).get? (model.fields.get i).column =
      if p ((model.fields.get i).mapping,
          (model.fields.get i).type.toValue (v.get model.fields i)) = true
      then some ((model.fields.get i).type.toValue (v.get model.fields i))
      else r.get? (model.fields.get i).column :=
  Dialect.get?_written hm ha hp (valueOf_declaration (Record.getElem?_toValues v i))

variable (hflat : ∀ f ∈ model.fields, f.type.isFlat = true) {d : Dialect}
include hflat

theorem ofRow_inserted (v : Record model.fields)
    (ha : Verb.Accepts .insert model.declaration (v.toValues model.fields)) :
    Record.ofRow model.fields
      (model.declaration.nullRow.insertAll
        ((d.worded .insert model.declaration none (v.toValues model.fields)).written
          (model.declaration.insertion none
            (model.declaration.fields.zip (v.toValues model.fields))).columns)) =
      .ok (v.withoutAssigned model.fields) := by
  refine Record.ofRow_eq_ok_tabulate fun i => ?_
  have hf : (model.fields.get i).type.isFlat = true := hflat _ (List.get_mem _ i)
  have hbinds (b : FieldValue) (hb : b.isInserted = true) : Verb.insert.binds b = true := hb
  have hcolumn := get?_written hm (d := d) (r := model.declaration.nullRow) ha hbinds i
  rw [ModelField.isInserted_mapping hf, get?_nullRow hm i] at hcolumn
  -- the column stays null for a key that the store assigns and for an unset value, which is the default
  cases hauto : (model.fields.get i).mapping.isAutoIncrement with
  | true =>
    rw [hauto] at hcolumn
    exact ModelField.read_of_null hcolumn
  | false =>
    rw [hauto] at hcolumn
    cases hunset : (model.fields.get i).type.isUnset (v.get model.fields i) with
    | true =>
      rw [hunset] at hcolumn
      rw [if_neg Bool.false_ne_true, FieldType.eq_default_of_isUnset hunset]
      exact ModelField.read_of_null hcolumn
    | false =>
      rw [hunset] at hcolumn
      exact ModelField.read_of_toValue hf hcolumn

theorem ofRow_updated {u w : Record model.fields} (hkeys : Record.SameKeys model.fields u w)
    (ha : Verb.Accepts .update model.declaration (w.toValues model.fields)) :
    Record.ofRow model.fields
      ((model.declaration.row (u.toValues model.fields)).insertAll
        ((d.worded .update model.declaration none (w.toValues model.fields)).written
          (model.declaration.modification none
            (model.declaration.fields.zip (w.toValues model.fields))).set)) =
      .ok (u.updated model.fields w) := by
  refine Record.ofRow_eq_ok_tabulate fun i => ?_
  have hf : (model.fields.get i).type.isFlat = true := hflat _ (List.get_mem _ i)
  have hbinds (b : FieldValue) (hb : b.isSet = true) : Verb.update.binds b = true := by
    simp [Verb.binds, FieldValue.isUpdated, hb]
  have hcolumn := get?_written hm (d := d) (r := model.declaration.row (u.toValues model.fields)) ha
    hbinds i
  rw [ModelField.isSet_mapping hf, get?_row_toValues hm u i] at hcolumn
  refine ModelField.read_of_toValue hf (hcolumn.trans ?_)
  -- a column outside the assignments keeps the value of `u`, which for a key is also that of `w`
  cases hunset : (model.fields.get i).type.isUnset (w.get model.fields i) with
  | true => rw [Bool.not_true, Bool.and_false, if_neg Bool.false_ne_true, if_pos rfl]
  | false =>
    rw [if_neg Bool.false_ne_true]
    cases hkey : (model.fields.get i).isKey with
    | true => rw [hkeys i hkey, ite_self]
    | false => rfl

end Model

/-- For a model whose declaration builds and whose types are flat, in whatever dialect: a record is
always inserted, and the columns of the insertion with the values that are bound to them, null in the
others, are read as that record without the keys that the store assigns. An update under the same keys
over the full row of an earlier record is read as the earlier record with all that is set in the later. -/
theorem written_reads_back {model : Model} {m : EntityMapping} (hm : model.describe = .ok m)
    (hflat : ∀ f ∈ model.fields, f.type.isFlat = true) (d : Dialect) :
    (∀ v : Record model.fields, ∃ p s, d.single .insert m (v.toValues model.fields) = .ok s ∧
      (d.singleWatched .insert m (v.toValues model.fields)).handed = [.insertion p] ∧
      Record.ofRow model.fields (m.nullRow.insertAll (s.written p.columns)) =
        .ok (v.withoutAssigned model.fields)) ∧
    ∀ u w : Record model.fields, Record.SameKeys model.fields u w →
      ∀ s, d.single .update m (w.toValues model.fields) = .ok s →
        ∃ p, (d.singleWatched .update m (w.toValues model.fields)).handed = [.modification p] ∧
          Record.ofRow model.fields
            ((m.row (u.toValues model.fields)).insertAll (s.written p.set)) =
              .ok (u.updated model.fields w) := by
  obtain ⟨hsound, rfl⟩ := EntityMapping.build_eq_ok_iff.1 hm
  constructor
  · intro v
    have ha : Verb.Accepts .insert model.declaration (v.toValues model.fields) :=
      ⟨Model.length_toValues v, fun h => nomatch h⟩
    have hneeds (h : Verb.insert.needsKeys = true) : model.declaration.hasKeys = true := nomatch h
    have hs := Dialect.single_eq_ok_iff.2 ⟨hneeds, ha, (rfl : d.worded .insert _ none _ = _)⟩
    exact ⟨_, _, hs, Dialect.handed_singleWatched hs, Model.ofRow_inserted hsound hflat v ha⟩
  · intro u w hkeys s hs
    obtain ⟨-, ha, rfl⟩ := Dialect.single_eq_ok_iff.1 hs
    exact ⟨_, Dialect.handed_singleWatched hs, Model.ofRow_updated hsound hflat hkeys ha⟩

/-- The column of one field is named as another field, a key is assigned by the store, and the name is
nothing both in what is inserted and in the update. -/
theorem written_reads_back_unset_name :
    let model : Model := ⟨"User", "User", none, [⟨"id", some "[Id]", true, true, .int32⟩,
      ⟨"name", some "id", false, false, .option .string⟩, ⟨"mark", none, false, false, .char⟩]⟩
    let v : Record model.fields := ((7 : Int32), (none : Option String), 'x', ())
    let u : Record model.fields := ((7 : Int32), some "ada", 'x', ())
    let w : Record model.fields := ((7 : Int32), (none : Option String), 'y', ())
    ∃ m, model.describe = .ok m ∧
      (∃ p s, Dialect.standard.single .insert m (v.toValues model.fields) = .ok s ∧
        s.written p = [("mark", .char 'x')] ∧
        Record.ofRow model.fields (m.nullRow.insertAll (s.written p)) =
          .ok ((0 : Int32), (none : Option String), 'x', ())) ∧
      ∃ p s, Dialect.standard.single .update m (w.toValues model.fields) = .ok s ∧
        s.written p = [("mark", .char 'y')] ∧
        Record.ofRow model.fields ((m.row (u.toValues model.fields)).insertAll (s.written p)) =
          .ok ((7 : Int32), some "ada", 'y', ()) := by
  intro model v u w
  have hm : model.describe = .ok model.declaration := rfl
  obtain ⟨hinsert, hupdate⟩ := written_reads_back hm (by decide) Dialect.standard
  refine ⟨model.declaration, hm, ?_, ?_⟩
  · obtain ⟨p, s, hs, hp, hread⟩ := hinsert v
    obtain rfl := Except.ok.inj hs
    obtain rfl := Parts.insertion.inj (List.cons.inj hp).1
    exact ⟨_, _, hs, rfl, hread⟩
  · have hkeys : Record.SameKeys model.fields u w := by
      intro i hi
      match i with
      | 0 => rfl
      | 1 => cases hi
      | 2 => cases hi
    obtain ⟨p, hp, hread⟩ := hupdate u w hkeys _ rfl
    obtain rfl := Parts.modification.inj (List.cons.inj hp).1
    exact ⟨_, _, rfl, rfl, hread⟩

end RecordMapper
