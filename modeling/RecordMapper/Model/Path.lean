import RecordMapper.Model.Basic
import RecordMapper.Predicate.Expr
import RecordMapper.Text.Escaped
/-!
# Typed paths

A path names a field of a model together with its type, so that a filter compares a field only with
values of that type. Text patterns apply to fields of text.
-/

namespace RecordMapper

structure Path {τ : Type} (type : τ) where
  source : String

namespace Path

variable {τ : Type} {t : τ}

def expr (p : Path t) : Expr := .field p.source

def isNull (p : Path t) : Expr := p.expr.isNull

def isNotNull (p : Path t) : Expr := p.expr.isNotNull

def shown (p : Path t) : String := "Path(" ++ Escaped.shown p.source ++ ")"

variable [FieldTypes τ]

def operand (x : FieldTypes.Carrier t) : Expr := .value (FieldTypes.toValue t x)

def compare (op : BinaryOperator) (p : Path t) (x : FieldTypes.Carrier t) : Expr :=
  .binary op p.expr (operand x)

def eq (p : Path t) (x : FieldTypes.Carrier t) : Expr := compare .eq p x
def ne (p : Path t) (x : FieldTypes.Carrier t) : Expr := compare .ne p x
def gt (p : Path t) (x : FieldTypes.Carrier t) : Expr := compare .gt p x
def ge (p : Path t) (x : FieldTypes.Carrier t) : Expr := compare .ge p x
def lt (p : Path t) (x : FieldTypes.Carrier t) : Expr := compare .lt p x
def le (p : Path t) (x : FieldTypes.Carrier t) : Expr := compare .le p x

def inList (p : Path t) (xs : List (FieldTypes.Carrier t)) : Expr :=
  p.expr.inList (.list (xs.map operand))

def startsWith (p : Path t) (_ : FieldTypes.isText t = true) (start : String) : Expr :=
  p.expr.startsWith (.value (.string start))

def endsWith (p : Path t) (_ : FieldTypes.isText t = true) (ending : String) : Expr :=
  p.expr.endsWith (.value (.string ending))

end Path

namespace ModelField

def path {τ : Type} (f : ModelField τ) : Path f.type := ⟨f.source⟩

end ModelField

end RecordMapper
