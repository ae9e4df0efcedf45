import RecordMapper.Error
import RecordMapper.Row
import RecordMapper.Statement.Basic
/-!
# Connections

A connection answers operations one at a time. An operation is a statement with the shape of answer
that its sender expects; what comes back may have another shape, and taking it apart then fails.
-/

namespace RecordMapper

inductive Purpose where
  | execute
  | query
  /-- The first column of the first row. -/
  | scalar
deriving DecidableEq

def Purpose.name : Purpose → String
  | execute => "execute"
  | query => "query"
  | scalar => "scalar"

structure Operation where
  purpose : Purpose
  statement : Statement

inductive Response where
  | count (rows : Nat)
  | scalar (v : Value)
  | rows (rows : List Row)

namespace Response

def shape : Response → String
  | count _ => "Count"
  | scalar _ => "Scalar"
  | rows _ => "Values"

def unexpected (expected : String) (r : Response) : Error :=
  Error.ofCause (.invalidResult ("expected " ++ expected ++ ", got " ++ r.shape))

def toCount : Response → Except Error Nat
  | count n => .ok n
  | r => .error (r.unexpected "Count")

def toScalar : Response → Except Error Value
  | scalar v => .ok v
  | r => .error (r.unexpected "Scalar")

def toRows : Response → Except Error (List Row)
  | rows rs => .ok rs
  | r => .error (r.unexpected "Values")

end Response

structure Connection (σ : Type) where
  exec : Operation → σ → Except Error Response × σ

end RecordMapper
