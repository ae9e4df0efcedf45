import RecordMapper.Proofs.Model.Fields
import RecordMapper.Proofs.Predicate.Fault
/-!
# Which rows can be read

A store may answer with a close relative of what was written: the same number in the other width, a
character as a text, a day with a time. A row of such answers is read as the record that was written. A
row cannot be read exactly if some field is looked up as a value of a kind that its type does not take,
or as a number that is out of its range; the first such field is reported.
-/

namespace RecordMapper

namespace FieldType

/-- What a store may answer with where a value was written. -/
inductive Answers : (t : FieldType) → Value → t.Carrier → Prop where
  | written {t : FieldType} (x : t.Carrier) : Answers t (t.toValue x) x
  | widened {n : Int64} {x : Int32} : n.toInt = x.toInt → Answers int32 (.int64 n) x
  | narrowed {n : Int32} {x : Int64} : n.toInt = x.toInt → Answers int64 (.int32 n) x
  | spelled (c : Char) : Answers char (.string (String.singleton c)) c
  | timed (t : DateTime) : Answers date (.dateTime t) t.date
  | some {inner : FieldType} {v : Value} {x : inner.Carrier} :
      Answers inner v x → Answers (option inner) v (some x)

/-- Whether the type takes values of this kind; of texts a character takes those of one character. -/
def takes : FieldType → Value → Bool
  | bool, .bool _ => true
  | int32, .int32 _ => true
  | int32, .int64 _ => true
  | int64, .int32 _ => true
  | int64, .int64 _ => true
  | float, .float _ => true
  | string, .string _ => true
  | char, .char _ => true
  | char, .string s => s.length == 1
  | bytes, .bytes _ => true
  | date, .date _ => true
  | date, .dateTime _ => true
  | dateTime, .dateTime _ => true
  | option inner, v => inner.takes v
  | _, _ => false

def overflows : FieldType → Value → Bool
  | int32, .int64 n => n.toInt < -2147483648 || 2147483647 < n.toInt
  | option inner, v => inner.overflows v
  | _, _ => false

theorem fitsInt32_eq (n : Int64) : fitsInt32 n = !overflows int32 (.int64 n) := by
  have hmin := Int32.toInt_minValue
  have hmax := Int32.toInt_maxValue
  rw [fitsInt32, overflows, hmin, hmax, Bool.eq_iff_iff]
  simp only [Bool.and_eq_true, Bool.not_eq_true', Bool.or_eq_false_iff, decide_eq_true_eq,
    decide_eq_false_iff_not]
  omega

theorem load_option {inner : FieldType} {v : Value} (hv : v ≠ .null) :
    (option inner).load v = (inner.load v).map Option.some := by
  cases v with
  | null => exact absurd rfl hv
  | _ => rfl

theorem load_option_eq_error_iff {inner : FieldType} {v : Value} (hv : v ≠ .null) {e : Error} :
    (option inner).load v = .error e ↔ inner.load v = .error e := by
  have hsame : failure? ((option inner).load v) = failure? (inner.load v) := by
    rw [load_option hv]
    exact failure?_map
  rw [← failure?_eq_some_iff, hsame, failure?_eq_some_iff]

theorem load_singleton (c : Char) : char.load (.string (String.singleton c)) = .ok c := by
  rw [load, String.toList_singleton]

theorem load_widened {n : Int64} {x : Int32} (h : n.toInt = x.toInt) :
    int32.load (.int64 n) = .ok x := by
  have hmin := Int32.le_toInt x
  have hmax := Int32.toInt_lt x
  have hfits : fitsInt32 n = true := by
    rw [fitsInt32_eq, overflows]
    simp only [Bool.not_eq_true', Bool.or_eq_false_iff, decide_eq_false_iff_not]
    omega
  have hx : n.toInt32 = x := by
    rw [← Int32.toInt_inj, Int64.toInt_toInt32, h, Int32.toInt_bmod_size]
  rw [load, if_pos hfits, hx]

theorem load_narrowed {n : Int32} {x : Int64} (h : n.toInt = x.toInt) :
    int64.load (.int32 n) = .ok x := by
  have hx : n.toInt64 = x := by
    rw [← Int64.toInt_inj, Int32.toInt_toInt64, h]
  rw [load, hx]

theorem Answers.eq_or_load {t : FieldType} {v : Value} {x : t.Carrier} (h : Answers t v x)
    (ht : t.isFlat = true) : v = t.toValue x ∨ v ≠ .null ∧ t.load v = .ok x := by
  induction h with
  | written x => exact .inl rfl
  | widened h => exact .inr ⟨nofun, load_widened h⟩
  | narrowed h => exact .inr ⟨nofun, load_narrowed h⟩
  | spelled c => exact .inr ⟨nofun, load_singleton c⟩
  | timed t => exact .inr ⟨nofun, rfl⟩
  | @some inner v x _ ih =>
    have hinner : inner.isFlat = true := by
      cases inner with
      | option inner => cases ht
      | _ => rfl
    rcases ih hinner with rfl | ⟨hv, hload⟩
    · exact .inl rfl
    · refine .inr ⟨hv, ?_⟩
      rw [load_option hv, hload]
      rfl

theorem load_char_eq_error_iff {s : String} {e : Error} :
    char.load (.string s) = .error e ↔
      char.takes (.string s) = false ∧ e = mismatch char (.string s) := by
  rw [load, takes, ← String.length_toList]
  match s.toList with
  | [] => simp [eq_comm]
  | [c] => simp
  | _ :: _ :: _ => simp [eq_comm]

theorem load_int32_eq_error_iff {n : Int64} {e : Error} :
    int32.load (.int64 n) = .error e ↔
      int32.overflows (.int64 n) = true ∧ e = mismatch int32 (.int64 n) := by
  rw [load, fitsInt32_eq]
  cases int32.overflows (.int64 n) with
  | true => simp [eq_comm]
  | false => simp

theorem load_eq_error_iff {t : FieldType} {v : Value} (hv : v ≠ .null) {e : Error} :
    t.load v = .error e ↔ (t.takes v = false ∨ t.overflows v = true) ∧ e = mismatch t v := by
  induction t with
  | option inner ih =>
    exact (load_option_eq_error_iff hv).trans ih
  | int32 =>
    cases v with
    | int64 n => simpa [takes] using load_int32_eq_error_iff
    | _ => simp [load, takes, overflows, eq_comm]
  | char =>
    cases v with
    | string s => simpa [overflows] using load_char_eq_error_iff
    | _ => simp [load, takes, overflows, eq_comm]
  | _ => cases v <;> simp [load, takes, overflows, eq_comm]

end FieldType

namespace ModelField

/-- What a field of a row is read from: what is in its column or, without that, under its source. -/
def lookup (f : ModelField) (r : Row) : Option Value := (r.get? f.column).or (r.get? f.source)

structure Rejects (f : ModelField) (r : Row) (v : Value) : Prop where
  found : f.lookup r = some v
  present : v ≠ .null
  unfit : f.type.takes v = false ∨ f.type.overflows v = true

variable {f : ModelField} {r : Row} {v : Value}

theorem read_of_unset (h : ∀ v, f.lookup r = some v → v = .null) :
    f.read r = .ok f.type.default := by
  unfold lookup at h
  rw [read, Row.loadField]
  cases hfound : (r.get? f.column).or (r.get? f.source) with
  | none => rfl
  | some v =>
    rw [h v hfound]
    rfl

theorem read_of_lookup (hfound : f.lookup r = some v) (hv : v ≠ .null) :
    f.read r = (f.type.load v).mapError fun e => e.context ("loading `" ++ f.source ++ "`") := by
  unfold lookup at hfound
  rw [read, Row.loadField, hfound]
  cases v with
  | null => exact absurd rfl hv
  | _ => rfl

theorem read_of_answers (hf : f.type.isFlat = true) {x : f.type.Carrier}
    (h : r.get? f.column = some v) (hv : f.type.Answers v x) : f.read r = .ok x := by
  rcases hv.eq_or_load hf with rfl | ⟨hne, hload⟩
  · exact read_of_toValue hf h
  · have hfound : f.lookup r = some v := by rw [lookup, h, Option.some_or]
    rw [read_of_lookup hfound hne, hload]
    rfl

theorem read_eq_error_iff {err : Error} :
    f.read r = .error err ↔ ∃ v, f.Rejects r v ∧
      err = (Error.ofCause (.typeConversion v f.type.name)).context
        ("loading `" ++ f.source ++ "`") := by
  constructor
  · intro h
    obtain ⟨v, hfound, hv⟩ : ∃ v, f.lookup r = some v ∧ v ≠ .null := by
      by_contra hnone
      push Not at hnone
      rw [read_of_unset hnone] at h
      cases h
    rw [read_of_lookup hfound hv] at h
    cases hload : f.type.load v with
    | ok x =>
      rw [hload] at h
      cases h
    | error e =>
      rw [hload] at h
      obtain ⟨hunfit, rfl⟩ := (FieldType.load_eq_error_iff hv).1 hload
      exact ⟨v, ⟨hfound, hv, hunfit⟩, (Except.error.inj h).symm⟩
  · rintro ⟨v, hv, rfl⟩
    have hload := (FieldType.load_eq_error_iff hv.present).2 ⟨hv.unfit, rfl⟩
    rw [read_of_lookup hv.found hv.present, hload]
    rfl

theorem failure?_read_eq_none_iff : failure? (f.read r) = none ↔ ∀ v, ¬ f.Rejects r v := by
  rw [Option.eq_none_iff_forall_ne_some]
  constructor
  · intro h v hv
    exact h _ (failure?_eq_some_iff.2 (read_eq_error_iff.2 ⟨v, hv, rfl⟩))
  · intro h err herr
    obtain ⟨v, hv, -⟩ := read_eq_error_iff.1 (failure?_eq_some_iff.1 herr)
    exact h v hv

end ModelField

theorem Record.failure?_ofRow {fields : List ModelField} {r : Row} :
    failure? (Record.ofRow fields r) = fields.findSome? fun f => failure? (f.read r) := by
  induction fields with
  | nil => rfl
  | cons f rest ih =>
    rw [ofRow, List.findSome?_cons, ← ih, ModelField.read]
    cases r.loadField f.type f.column f.source with
    | error e => rfl
    | ok x => exact failure?_map

/-- What becomes of a row of a model, whether or not its declaration builds. Where every column holds an
answer for the value of its field the row is read as those values, whatever else it holds. Reading fails
exactly if some field is looked up as a value that its type does not take or that is out of its range;
the first such field, in the order of declaration, is then reported. -/
theorem row_read_iff (model : Model) (r : Row) :
    ((∀ f ∈ model.fields, f.type.isFlat = true) → ∀ v : Record model.fields,
      (∀ i, ∃ w, r.get? (model.fields.get i).column = some w ∧
        (model.fields.get i).type.Answers w (v.get model.fields i)) →
      Record.ofRow model.fields r = .ok v) ∧
    ((∃ err, Record.ofRow model.fields r = .error err) ↔ ∃ f ∈ model.fields, ∃ w, f.Rejects r w) ∧
    ∀ err, Record.ofRow model.fields r = .error err ↔ ∃ before f after w,
      model.fields = before ++ f :: after ∧ (∀ g ∈ before, ∀ u, ¬ g.Rejects r u) ∧ f.Rejects r w ∧
        err.kind = some .typeConversion ∧
        err = (Error.ofCause (.typeConversion w f.type.name)).context
          ("loading `" ++ f.source ++ "`") := by
  refine ⟨?_, ?_, ?_⟩
  · intro hflat v hv
    rw [Record.ofRow_eq_ok_iff]
    intro i
    obtain ⟨w, hw, hanswers⟩ := hv i
    exact ModelField.read_of_answers (hflat _ (List.get_mem _ i)) hw hanswers
  · have hfails : (∃ err, Record.ofRow model.fields r = .error err) ↔
        (failure? (Record.ofRow model.fields r)).isSome = true := by
      rw [Option.isSome_iff_exists]
      simp only [failure?_eq_some_iff]
    rw [hfails, Record.failure?_ofRow, List.findSome?_isSome_iff]
    refine exists_congr fun f => and_congr_right fun _ => ?_
    rw [← not_iff_not, Option.not_isSome_iff_eq_none, ModelField.failure?_read_eq_none_iff]
    push Not
    rfl
  · intro err
    rw [← failure?_eq_some_iff, Record.failure?_ofRow, List.findSome?_eq_some_iff]
    simp only [failure?_eq_some_iff, ModelField.failure?_read_eq_none_iff,
      ModelField.read_eq_error_iff]
    constructor
    · rintro ⟨before, f, after, hsplit, ⟨w, hw, rfl⟩, hbefore⟩
      exact ⟨before, f, after, w, hsplit, hbefore, hw, rfl, rfl⟩
    · rintro ⟨before, f, after, w, hsplit, hbefore, hw, -, rfl⟩
      exact ⟨before, f, after, hsplit, ⟨w, hw, rfl⟩, hbefore⟩

/-- Each column with a relative of what was written, in another order and beside a column that no field
has; and a row in which a text is too long for a character, before a number that is too large. -/
theorem row_read_iff_relatives :
    let model : Model := ⟨"User", "User", none, [⟨"id", some "[Id]", true, true, .int64⟩,
      ⟨"mark", none, false, false, .char⟩, ⟨"day", none, false, false, .option .date⟩,
      ⟨"count", none, false, false, .int32⟩]⟩
    let relatives : Row := Row.ofList [("day", .dateTime DateTime.epoch), ("extra", .bytes []),
      ("count", .int64 (-5)), ("mark", .string "x"), ("[Id]", .int32 (-7))]
    let unfit : Row := Row.ofList [("count", .int64 2147483648), ("mark", .string "xy"),
      ("id", .int32 1)]
    Record.ofRow model.fields relatives =
        .ok ((-7 : Int64), 'x', some Date.epoch, (-5 : Int32), ()) ∧
      Record.ofRow model.fields unfit = .error ⟨[.adhoc "loading `mark`"],
        .typeConversion (.string "xy") "char"⟩ := by
  intro model relatives unfit
  constructor
  · refine (row_read_iff model relatives).1 (by decide)
      ((-7 : Int64), 'x', some Date.epoch, (-5 : Int32), ()) fun i => ?_
    match i with
    | 0 => exact ⟨.int32 (-7), rfl, .narrowed rfl⟩
    | 1 => exact ⟨.string "x", rfl, .spelled 'x'⟩
    | 2 => exact ⟨.dateTime DateTime.epoch, rfl, .some (.timed DateTime.epoch)⟩
    | 3 => exact ⟨.int64 (-5), rfl, .widened rfl⟩
  · refine ((row_read_iff model unfit).2.2 _).2 ⟨[⟨"id", some "[Id]", true, true, .int64⟩],
      ⟨"mark", none, false, false, .char⟩, _, .string "xy", rfl, ?_, ?_, rfl, rfl⟩
    · intro g hg u hu
      rw [List.mem_singleton.1 hg] at hu
      obtain rfl := Option.some.inj hu.found
      exact absurd hu.unfit (by decide)
    · exact ⟨rfl, nofun, .inl rfl⟩

end RecordMapper
