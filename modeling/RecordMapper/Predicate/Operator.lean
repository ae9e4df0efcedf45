import RecordMapper.Error
/-!
# Operators and methods of filters

The binary operators with their words in a statement, and the three matching methods. A method is
called in one of two shapes: on a receiver with one argument, or with two arguments of which the
first is the collection or the pattern.
-/

namespace RecordMapper

inductive BinaryOperator where
  | and | or
  | eq | ne | gt | ge | lt | le
  | add | sub | mul | div | mod
  /-- "This, or that if this is null": it can be stated but has no word in a statement. -/
  | coalesce
deriving DecidableEq

namespace BinaryOperator

def word? : BinaryOperator → Option String
  | and => some "AND"
  | or => some "OR"
  | eq => some "="
  | ne => some "<>"
  | gt => some ">"
  | ge => some ">="
  | lt => some "<"
  | le => some "<="
  | add => some "+"
  | sub => some "-"
  | mul => some "*"
  | div => some "/"
  | mod => some "%"
  | coalesce => none

def text (op : BinaryOperator) : String := op.word?.getD "??"

def aligned (width : Nat) (op : BinaryOperator) : String :=
  String.ofList (List.replicate (width - op.text.length) ' ') ++ op.text

def isLogical : BinaryOperator → Bool
  | and | or => true
  | _ => false

/-- What stands behind an operand in place of a comparison of it with null. -/
def nullTest? : BinaryOperator → Option String
  | eq => some " IS NULL"
  | ne => some " IS NOT NULL"
  | _ => none

end BinaryOperator

inductive Method where
  | contains | startsWith | endsWith
deriving DecidableEq

namespace Method

def name : Method → String
  | contains => "Contains"
  | startsWith => "StartsWith"
  | endsWith => "EndsWith"

def ofName (name : String) : Except Error Method :=
  if name = "Contains" then .ok contains
  else if name = "StartsWith" then .ok startsWith
  else if name = "EndsWith" then .ok endsWith
  else .error (Error.ofCause (.unsupportedCall name))

/-- The subject of a call, which is tested, and its operand, which is the collection or the pattern;
none for a call in neither shape. -/
def roles? {α : Type} (method : Method) (receiver : Option α) (arguments : List α) :
    Option (α × α) :=
  match receiver, arguments with
  | some r, [a] => some (if method = contains then (a, r) else (r, a))
  | none, [operand, subject] => some (subject, operand)
  | _, _ => none

theorem roles?_map {α β : Type} (f : α → β) (method : Method) (receiver : Option α)
    (arguments : List α) :
    method.roles? (receiver.map f) (arguments.map f) =
      (method.roles? receiver arguments).map fun (s, o) => (f s, f o) := by
  unfold roles?
  match receiver, arguments with
  | some _, [] => rfl
  | some _, [_] => by_cases h : method = contains <;> simp [h]
  | some _, _ :: _ :: _ => rfl
  | none, [] => rfl
  | none, [_] => rfl
  | none, [_, _] => rfl
  | none, _ :: _ :: _ :: _ => rfl

end Method

end RecordMapper
