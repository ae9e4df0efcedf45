import RecordMapper.Proofs.Mapping.Build
import RecordMapper.Proofs.Model.Fields
/-!
# Whose column a field is read from

A field without its column in a row is looked up under its source. That name is meant for the same column
without quoting, but nothing keeps it from being the column of another field: columns are checked against
columns and sources against sources. The field then takes what is stored for the other one, unless its type
makes nothing of any value.
-/

namespace RecordMapper

def Row.SameBut (column : String) (r r' : Row) : Prop := ∀ c, c ≠ column → r'.get? c = r.get? c

theorem Row.sameBut_insert (r : Row) (column : String) (v : Value) :
    Row.SameBut column r (r.insert column v) := by
  intro c hc
  rw [get?_insert, if_neg hc]

theorem Model.column_ne {τ : Type} {model : Model τ} (hm : EntityMapping.Sound model.declaration.fields)
    {i j : Fin model.fields.length} (hij : j ≠ i) :
    (model.fields.get j).column ≠ (model.fields.get i).column := by
  have hcolumns := hm.columns
  rw [Model.declaration, List.map_map] at hcolumns
  intro h
  have hget := List.inj_on_of_nodup_map hcolumns (List.get_mem _ j) (List.get_mem _ i) h
  exact hij ((hcolumns.of_map).get_inj_iff.1 hget)

variable {τ : Type} [FieldTypes τ]

/-- Every value is read as the one of an unset field. -/
def FieldTypes.Inert (t : τ) : Prop :=
  ∀ v, v ≠ .null → FieldTypes.load t v = .ok (FieldTypes.default t)

theorem FieldType.exists_load_list (t : FieldType) (items : List Value) :
    ∃ e, t.load (.list items) = .error e := by
  induction t with
  | option inner ih =>
    obtain ⟨e, he⟩ := ih
    have hload : (option inner).load (.list items) = (inner.load (.list items)).map some := rfl
    exact ⟨e, by rw [hload, he]; rfl⟩
  | _ => exact ⟨_, rfl⟩

theorem FieldType.not_inert (t : FieldType) : ¬ FieldTypes.Inert t := by
  intro h
  obtain ⟨e, he⟩ := t.exists_load_list []
  have hload : t.load (.list []) = .ok t.default := h (.list []) nofun
  rw [he] at hload
  cases hload

namespace ModelField

/-- Whatever a column holds in place of what it holds in the row, and if it is missing, the field is read
the same or fails the same. -/
def Ignores (f : ModelField τ) (column : String) (r : Row) : Prop :=
  ∀ r', Row.SameBut column r r' → f.read r' = f.read r

variable {f : ModelField τ} {column : String} {r r' : Row}

theorem read_congr (hcolumn : r'.get? f.column = r.get? f.column)
    (hsource : r.get? f.column = none → r'.get? f.source = r.get? f.source) :
    f.read r' = f.read r := by
  rw [read, read, Row.loadField, Row.loadField, hcolumn]
  cases h : r.get? f.column with
  | none => rw [hsource h]
  | some v => rfl

theorem read_of_none (hcolumn : r.get? f.column = none) (hsource : r.get? f.source = none) :
    f.read r = .ok (FieldTypes.default f.type) := by
  rw [read, Row.loadField, hcolumn, hsource]
  rfl

theorem read_of_source_null (hcolumn : r.get? f.column = none)
    (hsource : r.get? f.source = some .null) : f.read r = .ok (FieldTypes.default f.type) := by
  rw [read, Row.loadField, hcolumn, hsource]
  rfl

theorem read_of_source_eq_ok_iff (hcolumn : r.get? f.column = none) {v : Value}
    (hsource : r.get? f.source = some v) (hv : v ≠ .null) {x : FieldTypes.Carrier f.type} :
    f.read r = .ok x ↔ FieldTypes.load f.type v = .ok x := by
  have hread : f.read r = (FieldTypes.load f.type v).mapError fun e =>
      e.context ("loading `" ++ f.source ++ "`") := by
    rw [read, Row.loadField, hcolumn, hsource, Option.none_or]
    cases v with
    | null => exact absurd rfl hv
    | _ => rfl
  rw [hread]
  cases FieldTypes.load f.type v with
  | error e => simp [Except.mapError]
  | ok y => simp [Except.mapError]

theorem read_of_inert (hf : FieldTypes.Inert f.type) (hcolumn : r.get? f.column = none) :
    f.read r = .ok (FieldTypes.default f.type) := by
  cases hsource : r.get? f.source with
  | none => exact read_of_none hcolumn hsource
  | some v =>
    by_cases hv : v = .null
    · exact read_of_source_null hcolumn (hv ▸ hsource)
    · exact (read_of_source_eq_ok_iff hcolumn hsource hv).2 (hf v hv)

/-- Null and a value that is read otherwise are told apart if the field is looked up under its source. -/
theorem ignores_iff (hc : column ≠ f.column) :
    f.Ignores column r ↔
      column ≠ f.source ∨ r.get? f.column ≠ none ∨ FieldTypes.Inert f.type := by
  constructor
  · intro h
    by_contra hneither
    simp only [not_or, not_not] at hneither
    obtain ⟨rfl, hnone, hinert⟩ := hneither
    refine hinert fun v hv => ?_
    have hcolumn (w : Value) : (r.insert f.source w).get? f.column = none := by
      rw [Row.get?_insert, if_neg hc.symm, hnone]
    have hsource (w : Value) : (r.insert f.source w).get? f.source = some w := by
      rw [Row.get?_insert, if_pos rfl]
    have hnull := read_of_source_null (hcolumn .null) (hsource .null)
    rw [h _ (r.sameBut_insert f.source .null)] at hnull
    rw [← read_of_source_eq_ok_iff (hcolumn v) (hsource v) hv,
      h _ (r.sameBut_insert f.source v), hnull]
  · intro h r' hr
    have hcolumn := hr f.column hc.symm
    by_cases hown : r.get? f.column = none
    · rcases h with h | h | h
      · exact read_congr hcolumn fun _ => hr f.source h.symm
      · exact absurd hown h
      · rw [read_of_inert h (hcolumn.trans hown), read_of_inert h hown]
    · exact read_congr hcolumn fun hnone => absurd hnone hown

end ModelField

/-- What a field of a model is read from if the declaration builds. Null in its own column leaves it unset.
It ignores the column of another field exactly if that column is not named as its source or its own column
is there, or else if its type is inert. And it stays unset in every row of mapped columns without its own
exactly if no other field's column is named as its source or its type is inert. No built-in type is. -/
theorem field_read_apart_iff {model : Model τ} {m : EntityMapping} (hm : model.describe = .ok m)
    (i : Fin model.fields.length) :
    (∀ r v, Record.ofRow model.fields r = .ok v →
      (model.fields.get i).read r = .ok (v.get model.fields i)) ∧
    (∀ r : Row, r.get? (model.fields.get i).column = some .null →
      (model.fields.get i).read r = .ok (FieldTypes.default (model.fields.get i).type)) ∧
    (∀ j, j ≠ i → ∀ r, (model.fields.get i).Ignores (model.fields.get j).column r ↔
      (model.fields.get j).column ≠ (model.fields.get i).source ∨
        r.get? (model.fields.get i).column ≠ none ∨ FieldTypes.Inert (model.fields.get i).type) ∧
    ((∀ r : Row, (∀ c, r.get? c ≠ none → ∃ j, (model.fields.get j).column = c) →
        r.get? (model.fields.get i).column = none →
          (model.fields.get i).read r = .ok (FieldTypes.default (model.fields.get i).type)) ↔
      (∀ j, j ≠ i → (model.fields.get j).column ≠ (model.fields.get i).source) ∨
        FieldTypes.Inert (model.fields.get i).type) ∧
    ∀ t : FieldType, ¬ FieldTypes.Inert t := by
  obtain ⟨hsound, -⟩ := EntityMapping.build_eq_ok_iff.1 hm
  refine ⟨?_, ?_, ?_, ⟨?_, ?_⟩, FieldType.not_inert⟩
  · intro r v h
    exact Record.ofRow_eq_ok_iff.1 h i
  · intro r h
    exact ModelField.read_of_null h
  · intro j hj r
    exact ModelField.ignores_iff (Model.column_ne hsound hj)
  · intro hunset
    by_contra hneither
    simp only [not_or, not_forall, not_not] at hneither
    obtain ⟨⟨j, hj, heq⟩, hinert⟩ := hneither
    refine hinert fun v hv => ?_
    let r := Row.empty.insert (model.fields.get j).column v
    have hget (c : String) : r.get? c = if c = (model.fields.get j).column then some v else none :=
      Row.get?_insert ..
    have hown : r.get? (model.fields.get i).column = none := by
      rw [hget, if_neg (Model.column_ne hsound hj).symm]
    have hother : r.get? (model.fields.get i).source = some v := by
      rw [hget, if_pos heq.symm]
    rw [← ModelField.read_of_source_eq_ok_iff hown hother hv]
    refine hunset r ?_ hown
    intro c hc
    by_contra hnone
    refine hc ?_
    rw [hget, if_neg fun h => hnone ⟨j, h.symm⟩]
  · rintro (hsource | hinert) r hmapped hown
    · refine ModelField.read_of_none hown ?_
      by_contra hsome
      obtain ⟨j, hj⟩ := hmapped _ hsome
      by_cases hji : j = i
      · rw [← hj, hji] at hsome
        exact hsome hown
      · exact hsource j hji hj
    · exact ModelField.read_of_inert hinert hown

/-- The first field takes what another one's column holds, but not if its own column is there; the third
field takes it in no row. -/
theorem field_read_apart_iff_swapped :
    let model : Model := ⟨"Swap", "Swap", none, [⟨"a", some "b", true, false, .int32⟩,
      ⟨"b", some "a", false, false, .int32⟩, ⟨"c", some "[c]", false, false, .int32⟩]⟩
    let r : Row := Row.ofList [("a", .int32 7)]
    (∃ m, model.describe = .ok m) ∧ ¬ (model.fields.get 0).Ignores "a" r ∧
      (model.fields.get 0).Ignores "a" (r.insert "b" .null) ∧ (model.fields.get 2).Ignores "a" r := by
  intro model r
  have hm : model.describe = .ok model.declaration := rfl
  have hfirst := (field_read_apart_iff hm 0).2.2.1 1 (by decide)
  have hthird := (field_read_apart_iff hm 2).2.2.1 1 (by decide)
  refine ⟨⟨_, hm⟩, ?_, ?_, ?_⟩
  · intro h
    rcases (hfirst r).1 h with h | h | h
    · exact h rfl
    · exact h rfl
    · exact FieldType.not_inert _ h
  · exact (hfirst _).2 (.inr (.inl nofun))
  · exact (hthird r).2 (.inl (by decide))

/-- Two fields under each other's name. Without its column the first one is not left at its default but
follows the column of the second. -/
theorem swapped_field_not_default :
    let model : Model := ⟨"Swap", "Swap", none, [⟨"a", some "b", true, false, .int32⟩,
      ⟨"b", some "a", false, false, .int32⟩, ⟨"c", some "[c]", false, false, .int32⟩]⟩
    let r (n : Int32) : Row := Row.ofList [("a", .int32 n)]
    model.describe = .ok model.declaration ∧ (r 7).get? "b" = none ∧
      Record.ofRow model.fields (r 7) = .ok ((7 : Int32), (7 : Int32), (0 : Int32), ()) ∧
      Record.ofRow model.fields (r 8) = .ok ((8 : Int32), (8 : Int32), (0 : Int32), ()) ∧
      (model.fields.get 0).read (r 7) ≠ .ok (model.fields.get 0).type.default := by
  intro model r
  refine ⟨rfl, rfl, rfl, rfl, ?_⟩
  intro h
  have hvalue : (7 : Int32) = 0 := Except.ok.inj h
  revert hvalue
  decide

end RecordMapper
