import RecordMapper.Binary64
import RecordMapper.Calendar
/-!
# Values

A value is a field of a record, a bound parameter or a constant of a filter. Equality of values is
equality of kinds and contents, where numbers compare arithmetically: a value that holds a NaN differs
from itself.
-/

namespace RecordMapper

inductive Value where
  | null
  | bool (b : Bool)
  | int32 (n : Int32)
  | int64 (n : Int64)
  | float (x : Binary64)
  | string (s : String)
  | char (c : Char)
  | date (d : Date)
  | dateTime (t : DateTime)
  | bytes (data : List UInt8)
  | list (items : List Value)
deriving Inhabited

namespace Value

def isNull : Value → Bool
  | null => true
  | _ => false

def kindName : Value → String
  | null => "Null"
  | bool _ => "Bool"
  | int32 _ => "I32"
  | int64 _ => "I64"
  | float _ => "F64"
  | string _ => "String"
  | char _ => "Char"
  | date _ => "Date"
  | dateTime _ => "DateTime"
  | bytes _ => "Bytes"
  | list _ => "List"

def string? : Value → Option String
  | string s => some s
  | _ => none

/-- The number of an integer value of either width. -/
def int64? : Value → Option Int64
  | int32 n => some n.toInt64
  | int64 n => some n
  | _ => none

def bool? : Value → Option Bool
  | bool b => some b
  | _ => none

mutual

/-- Same kind and same content, numbers compared as numbers. -/
def same : Value → Value → Bool
  | null, null => true
  | bool a, bool b => a == b
  | int32 a, int32 b => a == b
  | int64 a, int64 b => a == b
  | float x, float y => x.sameNumber y
  | string a, string b => a == b
  | char a, char b => a == b
  | date a, date b => a == b
  | dateTime a, dateTime b => a == b
  | bytes a, bytes b => a == b
  | list a, list b => sameItems a b
  | _, _ => false

def sameItems : List Value → List Value → Bool
  | [], [] => true
  | a :: as, b :: bs => same a b && sameItems as bs
  | _, _ => false

end

/-- Values are compared as numbers are, so a NaN is not equal to itself. -/
instance : BEq Value := ⟨same⟩

@[simp]
theorem isNull_eq_true_iff {v : Value} : v.isNull = true ↔ v = null := by
  cases v <;> simp [isNull]

end Value

end RecordMapper
