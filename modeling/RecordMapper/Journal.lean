import RecordMapper.Decimal.Digits
/-!
# Journal lines

What a database tells about its work: the models it registered, the filters it compiled, each
statement it sent with the names of its parameters, and how many rows came back. Values of parameters
are no part of a line.
-/

namespace RecordMapper

inductive JournalLine where
  | registered (entity table : String) (fields : Nat)
  | compiled (entity text : String)
  | sent (purpose text : String) (names : List String)
  | affected (rows : Nat)
  | returned (rows : Nat)
deriving DecidableEq

inductive Detail where
  | debug | trace
deriving DecidableEq

namespace JournalLine

def detail : JournalLine → Detail
  | registered _ _ _ | sent _ _ _ => .debug
  | compiled _ _ | affected _ | returned _ => .trace

def message : JournalLine → String
  | registered entity table fields =>
    "registered `" ++ entity ++ "` -> table `" ++ table ++ "` (" ++ Decimal.natText fields ++
      " fields)"
  | compiled entity text => "compiled predicate for `" ++ entity ++ "`: " ++ text
  | sent purpose text names =>
    purpose ++ ": " ++ text ++ "; params=[" ++ String.intercalate ", " names ++ "]"
  | affected rows => "affected " ++ Decimal.natText rows ++ " row(s)"
  | returned rows => "returned " ++ Decimal.natText rows ++ " row(s)"

end JournalLine

end RecordMapper
