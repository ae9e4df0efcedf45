import RecordMapper.Mapping
import RecordMapper.Predicate.Expr
import RecordMapper.Text.Quoted
/-!
# Filters as fragments of a statement

The fragment of a filter names columns, writes constants as literals, and adds no parentheses but
those of `IN` and `LIKE`. A comparison with the null constant for equality becomes a null test, since
no comparison holds of null. A fragment exists unless some node has no written form; of several such
nodes the first one met is reported.
-/

namespace RecordMapper

abbrev Fragment := Except Error String

namespace Value

/-- The literal that stands for a constant: text and dates are quoted, numbers and truth values are
not. -/
def literal (v : Value) : Fragment :=
  match v with
  | null => .ok "null"
  | bool b => .ok (if b then "true" else "false")
  | int32 n => .ok (Decimal.intText n.toInt)
  | int64 n => .ok (Decimal.intText n.toInt)
  | float x =>
    if x.isFinite then .ok x.text
    else .error (Error.ofCause (.unsupportedExpression
      ("non-finite float `" ++ x.text ++ "` has no literal form")))
  | string s => .ok (Quoted.literal s)
  | char c => .ok (Quoted.literal (String.singleton c))
  | date d => .ok (Quoted.literal d.text)
  | dateTime t => .ok (Quoted.literal t.text)
  | bytes _ | list _ =>
    .error (Error.ofCause (.unsupportedExpression
      (v.kindName ++ " values cannot be used as predicate constants")))

end Value

namespace EntityMapping

def fragment (m : EntityMapping) (source : String) : Fragment :=
  match m.field? source with
  | some f => .ok f.column
  | none => .error (Error.ofCause (.unknownField m.name source))

end EntityMapping

namespace Fragment

def all : List Fragment → Except Error (List String)
  | [] => .ok []
  | .error e :: _ => .error e
  | .ok text :: rest =>
    match all rest with
    | .error e => .error e
    | .ok texts => .ok (text :: texts)

def list (items : List Fragment) : Fragment :=
  (all items).map (String.intercalate ",")

def binary (op : BinaryOperator) (rightIsNull : Bool) (left right : Fragment) : Fragment :=
  match op.word? with
  | none =>
    .error (Error.ofCause (.unsupportedOperator op.text "use an explicit ISNULL/COALESCE function"))
  | some word =>
    match if rightIsNull then op.nullTest? else none with
    | some test => left.map (· ++ test)
    | none =>
      match left with
      | .error e => .error e
      | .ok l => right.map fun r => l ++ " " ++ word ++ " " ++ r

/-- A test of `subject` against `operand`. The pattern of a `LIKE` is made before its subject and
loses one enclosing pair of quotes. -/
def test (method : Method) (subject operand : Fragment) : Fragment :=
  match method with
  | .contains =>
    match subject with
    | .error e => .error e
    | .ok s => operand.map fun o => "(" ++ s ++ " IN (" ++ o ++ "))"
  | .startsWith =>
    match operand with
    | .error e => .error e
    | .ok o => subject.map fun s => "(" ++ s ++ " LIKE '" ++ Quoted.strip o ++ "%')"
  | .endsWith =>
    match operand with
    | .error e => .error e
    | .ok o => subject.map fun s => "(" ++ s ++ " LIKE '%" ++ Quoted.strip o ++ "')"

def malformedCall (method : Method) (hasReceiver : Bool) (count : Nat) : Error :=
  Error.ofCause (.unsupportedExpression
    ("`" ++ method.name ++ "` takes either a receiver and one argument or two arguments, got " ++
      Decimal.natText count ++ " argument(s) " ++ (if hasReceiver then "and" else "without") ++
      " a receiver"))

def call (method : Method) (receiver : Option Fragment) (arguments : List Fragment) : Fragment :=
  match method.roles? receiver arguments with
  | some (subject, operand) => test method subject operand
  | none => .error (malformedCall method receiver.isSome arguments.length)

end Fragment

namespace Expr

mutual

def compile (m : EntityMapping) : Expr → Fragment
  | binary op left right =>
    Fragment.binary op right.isNullConstant (compile m left) (compile m right)
  | field source => m.fragment source
  | list items => Fragment.list (compileItems m items)
  | call method receiver arguments =>
    Fragment.call method (compileReceiver m receiver) (compileItems m arguments)
  | unary operand => compile m operand
  | value v => v.literal

def compileItems (m : EntityMapping) : List Expr → List Fragment
  | [] => []
  | e :: rest => compile m e :: compileItems m rest

def compileReceiver (m : EntityMapping) : Option Expr → Option Fragment
  | none => none
  | some e => some (compile m e)

end

theorem compileItems_eq_map (m : EntityMapping) (items : List Expr) :
    compileItems m items = items.map (compile m) := by
  induction items with
  | nil => rfl
  | cons e rest ih => simp [compileItems, ih]

theorem compileReceiver_eq_map (m : EntityMapping) (receiver : Option Expr) :
    compileReceiver m receiver = receiver.map (compile m) := by
  cases receiver <;> rfl

theorem compile_list (m : EntityMapping) (items : List Expr) :
    (list items).compile m = Fragment.list (items.map (compile m)) := by
  simp [compile, compileItems_eq_map]

theorem compile_call (m : EntityMapping) (method : Method) (receiver : Option Expr)
    (arguments : List Expr) :
    (call method receiver arguments).compile m =
      match method.roles? receiver arguments with
      | some (subject, operand) =>
        Fragment.test method (subject.compile m) (operand.compile m)
      | none => .error (Fragment.malformedCall method receiver.isSome arguments.length) := by
  simp only [compile, compileReceiver_eq_map, compileItems_eq_map, Fragment.call,
    Method.roles?_map]
  cases method.roles? receiver arguments <;> simp

end Expr

end RecordMapper
