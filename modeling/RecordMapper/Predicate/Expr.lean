import RecordMapper.Predicate.Operator
/-!
# Filter expressions

A filter is a tree over fields and constants. A `unary` node marks a conversion that matters to the
program that built the filter and leaves no trace in a statement.
-/

namespace RecordMapper

inductive Expr where
  | binary (op : BinaryOperator) (left right : Expr)
  | field (source : String)
  | list (items : List Expr)
  | call (method : Method) (receiver : Option Expr) (arguments : List Expr)
  | unary (operand : Expr)
  | value (v : Value)
deriving Inhabited

namespace Expr

def null : Expr := value .null

def isNullValue : Expr → Bool
  | value v => v.isNull
  | _ => false

/-- Whether the expression is the null constant, under any number of unary nodes. -/
def isNullConstant : Expr → Bool
  | value v => v.isNull
  | unary operand => isNullConstant operand
  | _ => false

def isList : Expr → Bool
  | list _ => true
  | _ => false

def isEquality : Expr → Bool
  | binary .eq _ _ => true
  | _ => false

def field? : Expr → Option String
  | field source => some source
  | _ => none

def value? : Expr → Option Value
  | value v => some v
  | _ => none

def isNull (e : Expr) : Expr := binary .eq e null

def isNotNull (e : Expr) : Expr := binary .ne e null

def contains (e probe : Expr) : Expr := call .contains (some e) [probe]

/-- `e` is one of `items`; the call has no receiver. -/
def inList (e items : Expr) : Expr := call .contains none [items, e]

def startsWith (e pattern : Expr) : Expr := call .startsWith (some e) [pattern]

def endsWith (e pattern : Expr) : Expr := call .endsWith (some e) [pattern]

def callNamed (name : String) (receiver : Option Expr) (arguments : List Expr) :
    Except Error Expr :=
  (Method.ofName name).map fun method => call method receiver arguments

def wrapped : Nat → Expr → Expr
  | 0, e => e
  | depth + 1, e => unary (wrapped depth e)

/-- `first op e₁ op e₂ …`, grouped to the left. -/
def folded (op : BinaryOperator) (first : Expr) (rest : List Expr) : Expr :=
  rest.foldl (fun left right => binary op left right) first

mutual

/-- Same shape and names, and constants that are equal as values. -/
def same : Expr → Expr → Bool
  | binary op l r, binary op' l' r' => op == op' && same l l' && same r r'
  | field s, field s' => s == s'
  | list items, list items' => sameItems items items'
  | call m t as, call m' t' as' => m == m' && sameOption t t' && sameItems as as'
  | unary e, unary e' => same e e'
  | value v, value v' => v.same v'
  | _, _ => false

def sameItems : List Expr → List Expr → Bool
  | [], [] => true
  | e :: es, e' :: es' => same e e' && sameItems es es'
  | _, _ => false

def sameOption : Option Expr → Option Expr → Bool
  | none, none => true
  | some e, some e' => same e e'
  | _, _ => false

end

instance : BEq Expr := ⟨same⟩

end Expr

end RecordMapper
