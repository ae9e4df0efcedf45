import RecordMapper.Statement.Basic
/-!
# Dialects

What goes into a statement is decided before its wording: the parts of a statement name its table,
the columns it writes and the columns that identify its rows. A dialect words the parts of each of the
four verbs, and each wording can be replaced on its own.
-/

namespace RecordMapper

structure Assignment where
  column : String
  placeholder : String
deriving DecidableEq

def Assignment.equality (a : Assignment) : String := a.column ++ " = " ++ a.placeholder

/-- The written columns of one record; none if every one is left to the store. -/
structure Insertion where
  table : String
  columns : List Assignment
deriving DecidableEq

structure Modification where
  table : String
  set : List Assignment
  keys : List Assignment
deriving DecidableEq

inductive RowFilter where
  | keys (keys : List Assignment)
  | predicate (text : String)
deriving DecidableEq

structure Deletion where
  table : String
  filter : RowFilter
deriving DecidableEq

structure Selection where
  table : String
  predicate : Option String
deriving DecidableEq

structure Dialect where
  insertion : Insertion → String
  modification : Modification → String
  deletion : Deletion → String
  selection : Selection → String

namespace Assignment

def equalities (separator : String) (assignments : List Assignment) : String :=
  String.intercalate separator (assignments.map equality)

end Assignment

namespace Insertion

def standard (p : Insertion) : String :=
  if p.columns.isEmpty then "INSERT " ++ p.table ++ " DEFAULT VALUES"
  else
    "INSERT " ++ p.table ++ " (" ++ String.intercalate ", " (p.columns.map Assignment.column) ++
      ") VALUES (" ++ String.intercalate ", " (p.columns.map Assignment.placeholder) ++ ")"

end Insertion

namespace Modification

def standard (p : Modification) : String :=
  "UPDATE " ++ p.table ++ " SET " ++ Assignment.equalities ", " p.set ++ " WHERE " ++
    Assignment.equalities " AND " p.keys

end Modification

namespace Deletion

def standard (p : Deletion) : String :=
  "DELETE FROM " ++ p.table ++ " WHERE " ++
    match p.filter with
    | .keys keys => Assignment.equalities " AND " keys
    | .predicate text => text

end Deletion

namespace Selection

/-- A selection of all rows has a predicate that always holds. -/
def standard (p : Selection) : String :=
  "SELECT * FROM " ++ p.table ++ " WHERE " ++ p.predicate.getD "0=0"

end Selection

namespace Dialect

def standard : Dialect :=
  ⟨Insertion.standard, Modification.standard, Deletion.standard, Selection.standard⟩

def withInsertion (d : Dialect) (wording : Insertion → String) : Dialect :=
  { d with insertion := wording }

def withModification (d : Dialect) (wording : Modification → String) : Dialect :=
  { d with modification := wording }

def withDeletion (d : Dialect) (wording : Deletion → String) : Dialect :=
  { d with deletion := wording }

def withSelection (d : Dialect) (wording : Selection → String) : Dialect :=
  { d with selection := wording }

end Dialect

end RecordMapper
