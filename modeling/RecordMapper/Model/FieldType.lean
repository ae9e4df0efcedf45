import RecordMapper.Error
import RecordMapper.Row
/-!
# Field types

A type that a field of a model may have comes with its values in the program, the value of a field that
was never set, a way to a dynamic value and a way back. Nothing ties the two ways together, and a model may
use whatever types have them. The built-in types are read with tolerance where a store may answer with a
close relative of what was written: an integer of the other width, a string for a character, a date-time
for a date.
-/

namespace RecordMapper

/-- The field types of an application, each known by an element of `τ`. -/
class FieldTypes (τ : Type) where
  Carrier : τ → Type
  /-- The value of a field that was never set. -/
  default : (t : τ) → Carrier t
  toValue : (t : τ) → Carrier t → Value
  load : (t : τ) → Value → Except Error (Carrier t)
  /-- Whether text matching applies to fields of the type. -/
  isText : τ → Bool

inductive FieldType where
  | bool | int32 | int64 | float | string | char | bytes | date | dateTime
  | option (inner : FieldType)
deriving DecidableEq

namespace FieldType

def Carrier : FieldType → Type
  | bool => Bool
  | int32 => Int32
  | int64 => Int64
  | float => Binary64
  | string => String
  | char => Char
  | bytes => List UInt8
  | date => Date
  | dateTime => DateTime
  | option inner => Option inner.Carrier

/-- The name of the type in diagnostics; an optional type fails by the name of what it holds. -/
def name : FieldType → String
  | bool => "bool"
  | int32 => "i32"
  | int64 => "i64"
  | float => "f64"
  | string => "String"
  | char => "char"
  | bytes => "Vec<u8>"
  | date => "NaiveDate"
  | dateTime => "NaiveDateTime"
  | option inner => inner.name

def default : (t : FieldType) → t.Carrier
  | bool => false
  | int32 => (0 : Int32)
  | int64 => (0 : Int64)
  | float => (⟨0⟩ : Binary64)
  | string => ""
  | char => '\x00'
  | bytes => ([] : List UInt8)
  | date => Date.epoch
  | dateTime => DateTime.epoch
  | option _ => none

def toValue : (t : FieldType) → t.Carrier → Value
  | bool, b => .bool b
  | int32, n => .int32 n
  | int64, n => .int64 n
  | float, x => .float x
  | string, s => .string s
  | char, c => .char c
  | bytes, data => .bytes data
  | date, d => .date d
  | dateTime, t => .dateTime t
  | option _, none => .null
  | option inner, some x => inner.toValue x

def mismatch (t : FieldType) (v : Value) : Error := Error.ofCause (.typeConversion v t.name)

def fitsInt32 (n : Int64) : Bool :=
  Int32.minValue.toInt ≤ n.toInt && n.toInt ≤ Int32.maxValue.toInt

def load (t : FieldType) (v : Value) : Except Error t.Carrier :=
  match t, v with
  | bool, .bool b => .ok b
  | int32, .int32 n => .ok n
  | int32, .int64 n => if fitsInt32 n then .ok n.toInt32 else .error (mismatch int32 v)
  | int64, .int64 n => .ok n
  | int64, .int32 n => .ok n.toInt64
  | float, .float x => .ok x
  | string, .string s => .ok s
  | char, .char c => .ok c
  | char, .string s =>
    match s.toList with
    | [c] => .ok c
    | _ => .error (mismatch char v)
  | bytes, .bytes data => .ok data
  | date, .date d => .ok d
  | date, .dateTime d => .ok d.date
  | dateTime, .dateTime d => .ok d
  | option _, .null => .ok none
  | option inner, v => (inner.load v).map some
  | t, v => .error (mismatch t v)

def isText : FieldType → Bool
  | string => true
  | option string => true
  | _ => false

instance : FieldTypes FieldType := ⟨Carrier, default, toValue, load, isText⟩

end FieldType

/-- Reads one field from a row. The column is looked up by its own name and, only if the row has no
such column, by the field's name, since a store may answer without the quoting of the column. A value
that is absent or null leaves the field unset. -/
def Row.loadField {τ : Type} [FieldTypes τ] (r : Row) (t : τ) (column source : String) :
    Except Error (FieldTypes.Carrier t) :=
  match (r.get? column).or (r.get? source) with
  | none => .ok (FieldTypes.default t)
  | some .null => .ok (FieldTypes.default t)
  | some v => (FieldTypes.load t v).mapError fun e => e.context ("loading `" ++ source ++ "`")

end RecordMapper
