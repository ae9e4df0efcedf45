import RecordMapper.Mapping
import RecordMapper.Model.FieldType
/-!
# Models

A model is a record type that can be stored. Its description, the values of a record, the record read
from a row and the paths used in filters all follow from one list of declared fields. Unless something else
is said the fields have built-in types.
-/

namespace RecordMapper

structure ModelField (τ : Type := FieldType) where
  source : String
  override : Option String
  isKey : Bool
  marksAuto : Bool
  type : τ
deriving DecidableEq

namespace ModelField

variable {τ : Type}

def column (f : ModelField τ) : String := f.override.getD f.source

def mapping (f : ModelField τ) : FieldMapping := ⟨f.source, f.override, f.isKey, f.marksAuto⟩

end ModelField

structure Model (τ : Type := FieldType) where
  /-- The name of the type with its path, used in diagnostics. -/
  typeName : String
  name : String
  tableOverride : Option String
  fields : List (ModelField τ)
deriving DecidableEq

def Record {τ : Type} [FieldTypes τ] : List (ModelField τ) → Type
  | [] => Unit
  | f :: rest => FieldTypes.Carrier f.type × Record rest

namespace Record

variable {τ : Type} [FieldTypes τ]

def toValues : (fields : List (ModelField τ)) → Record fields → List Value
  | [], () => []
  | f :: rest, (x, xs) => FieldTypes.toValue f.type x :: toValues rest xs

/-- The record with the given dynamic values, or the failure of the first field that does not take its
value; fields without a value are unset. -/
def ofValues : (fields : List (ModelField τ)) → List Value → Except Error (Record fields)
  | [], _ => .ok ()
  | f :: rest, [] => (ofValues rest []).map fun xs => (FieldTypes.default f.type, xs)
  | f :: rest, v :: vs =>
    match FieldTypes.load f.type v with
    | .error e => .error e
    | .ok x => (ofValues rest vs).map fun xs => (x, xs)

def ofRow : (fields : List (ModelField τ)) → Row → Except Error (Record fields)
  | [], _ => .ok ()
  | f :: rest, r =>
    match r.loadField f.type f.column f.source with
    | .error e => .error e
    | .ok x => (ofRow rest r).map fun xs => (x, xs)

theorem length_toValues (fields : List (ModelField τ)) (r : Record fields) :
    (toValues fields r).length = fields.length := by
  induction fields with
  | nil => rfl
  | cons f rest ih =>
    obtain ⟨x, xs⟩ := r
    simp [toValues, ih xs]

end Record

namespace Model

variable {τ : Type}

def declaration (m : Model τ) : EntityMapping :=
  ⟨m.name, m.tableOverride, m.fields.map ModelField.mapping⟩

/-- The mapping of a model, if its declaration is sound. It never changes, so asking again gives the
same answer. -/
def describe (m : Model τ) : Except Error EntityMapping := m.declaration.build

def field? (m : Model τ) (source : String) : Option (ModelField τ) :=
  m.fields.find? fun f => f.source == source

end Model

end RecordMapper
