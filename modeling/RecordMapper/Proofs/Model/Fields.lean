import RecordMapper.Model.Basic
/-!
# Records field by field

A record is known by its values at the places of its fields. Reading it from a row reads each place on its
own, and what is read at one place is what was written there: only an unset value is written as null, and
an absent one is read as unset.
-/

namespace RecordMapper

namespace FieldType

/-- Not an optional type of an optional type. Of those two kinds of nothing only one is read back. -/
def isFlat : FieldType → Bool
  | option (option _) => false
  | _ => true

def isUnset : (t : FieldType) → t.Carrier → Bool
  | option _, none => true
  | _, _ => false

theorem eq_default_of_isUnset {t : FieldType} {x : t.Carrier} (h : t.isUnset x = true) :
    x = t.default := by
  cases t with
  | option inner =>
    cases x with
    | none => rfl
    | some x => cases h
  | _ => cases h

theorem isNull_toValue_of_isFlat {t : FieldType} (ht : t.isFlat = true) (x : t.Carrier) :
    (t.toValue x).isNull = t.isUnset x := by
  cases t with
  | option inner =>
    cases x with
    | none => rfl
    | some x =>
      cases inner with
      | option inner => cases ht
      | _ => rfl
  | _ => rfl

theorem load_toValue {t : FieldType} (ht : t.isFlat = true) (x : t.Carrier) :
    t.load (t.toValue x) = .ok x := by
  cases t with
  | option inner =>
    cases x with
    | none => rfl
    | some x =>
      cases inner with
      | option inner => cases ht
      | _ => rfl
  | _ => rfl

end FieldType

variable {τ : Type} [FieldTypes τ]

namespace ModelField

def read (f : ModelField τ) (r : Row) : Except Error (FieldTypes.Carrier f.type) :=
  r.loadField f.type f.column f.source

theorem read_of_null {f : ModelField τ} {r : Row} (h : r.get? f.column = some .null) :
    f.read r = .ok (FieldTypes.default f.type) := by
  rw [read, Row.loadField, h]
  rfl

/-- What is stored of a value is read as that value, null included. -/
theorem read_of_toValue {f : ModelField} {r : Row} (hf : f.type.isFlat = true) {x : f.type.Carrier}
    (h : r.get? f.column = some (f.type.toValue x)) : f.read r = .ok x := by
  have hnull := FieldType.isNull_toValue_of_isFlat hf x
  have hload := FieldType.load_toValue hf x
  cases hv : f.type.toValue x with
  | null =>
    rw [hv] at h hnull
    rw [read_of_null h, FieldType.eq_default_of_isUnset hnull.symm]
    rfl
  | _ =>
    rw [hv] at h hload
    rw [read, Row.loadField, h, Option.some_or]
    exact congrArg (Except.mapError _) hload

end ModelField

namespace Record

def get : (fields : List (ModelField τ)) → Record fields → (i : Fin fields.length) →
    FieldTypes.Carrier (fields.get i).type
  | _ :: _, (x, _), ⟨0, _⟩ => x
  | _ :: rest, (_, xs), ⟨k + 1, h⟩ => get rest xs ⟨k, Nat.lt_of_succ_lt_succ h⟩

def tabulate : (fields : List (ModelField τ)) →
    ((i : Fin fields.length) → FieldTypes.Carrier (fields.get i).type) → Record fields
  | [], _ => ()
  | _ :: rest, value => (value ⟨0, Nat.zero_lt_succ _⟩, tabulate rest fun i => value i.succ)

variable {fields : List (ModelField τ)}

theorem get_tabulate (value : (i : Fin fields.length) → FieldTypes.Carrier (fields.get i).type)
    (i : Fin fields.length) : get fields (tabulate fields value) i = value i := by
  induction fields with
  | nil => exact i.elim0
  | cons f rest ih =>
    obtain ⟨k, hk⟩ := i
    cases k with
    | zero => rfl
    | succ k => exact ih (fun i => value i.succ) ⟨k, Nat.lt_of_succ_lt_succ hk⟩

theorem getElem?_toValues (v : Record fields) (i : Fin fields.length) :
    (toValues fields v)[i.val]? = some (FieldTypes.toValue (fields.get i).type (get fields v i)) := by
  induction fields with
  | nil => exact i.elim0
  | cons f rest ih =>
    obtain ⟨x, xs⟩ := v
    obtain ⟨k, hk⟩ := i
    cases k with
    | zero => rfl
    | succ k => exact ih xs ⟨k, Nat.lt_of_succ_lt_succ hk⟩

theorem ofRow_eq_ok_iff {r : Row} {v : Record fields} :
    ofRow fields r = .ok v ↔ ∀ i, (fields.get i).read r = .ok (get fields v i) := by
  induction fields with
  | nil => exact ⟨fun _ i => i.elim0, fun _ => rfl⟩
  | cons f rest ih =>
    obtain ⟨x, xs⟩ := v
    have hrest := ih (v := xs)
    have hsplit : (∀ i, ((f :: rest).get i).read r = .ok (get (f :: rest) (x, xs) i)) ↔
        f.read r = .ok x ∧ ∀ i, (rest.get i).read r = .ok (get rest xs i) :=
      Fin.forall_fin_succ
    rw [hsplit, ← hrest, ofRow, ModelField.read]
    cases r.loadField f.type f.column f.source with
    | error e => simp
    | ok y =>
      dsimp only
      cases ofRow rest r with
      | error e => simp [Except.map]
      | ok ys =>
        constructor
        · intro h
          obtain ⟨rfl, rfl⟩ := Prod.mk.inj (Except.ok.inj h)
          exact ⟨rfl, rfl⟩
        · rintro ⟨hx, hxs⟩
          obtain rfl := Except.ok.inj hx
          obtain rfl := Except.ok.inj hxs
          rfl

theorem ofRow_eq_ok_tabulate {r : Row}
    {value : (i : Fin fields.length) → FieldTypes.Carrier (fields.get i).type}
    (h : ∀ i, (fields.get i).read r = .ok (value i)) :
    ofRow fields r = .ok (tabulate fields value) := by
  rw [ofRow_eq_ok_iff]
  intro i
  rw [get_tabulate]
  exact h i

end Record

end RecordMapper
