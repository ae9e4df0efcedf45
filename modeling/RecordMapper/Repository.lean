import RecordMapper.Database
import RecordMapper.Model.Basic
import RecordMapper.Text.Escaped
/-!
# Repositories

A repository reads and writes the records of one model through a database. Every operation resolves
the mapping, builds its statement and only then turns to the connection; what the connection fails
with is passed on unchanged.
-/

namespace RecordMapper

structure Repository (σ : Type) (τ : Type := FieldType) where
  database : Database σ
  model : Model τ

variable {σ τ : Type}

/-- Where a failure to build a write arose, for the verbs that say so. -/
def Model.place (m : Model τ) (verb : Verb) (many : Bool) : Option String :=
  let named (operation : String) : Option String :=
    some ("Repository<" ++ m.typeName ++ ">::" ++ operation ++ (if many then "_many()" else "()"))
  match verb with
  | .insert => none
  | .update => named "update"
  | .delete => named "delete"

namespace Repository

def shown (r : Repository σ τ) : String :=
  "Repository \x7b model: " ++ Escaped.shown r.model.typeName ++ " \x7d"

def mapping (r : Repository σ τ) : Action σ EntityMapping := Action.ofExcept r.model.describe

def fragment (m : EntityMapping) (filter : Expr) : Action σ String := do
  let text ← Action.ofExcept (filter.compile m)
  Action.tell (.compiled m.name text)
  return text

def selection (r : Repository σ τ) (filter : Option Expr) : Action σ Statement := do
  let m ← r.mapping
  match filter with
  | none => return r.database.dialect.selectMatching m none
  | some e =>
    let text ← fragment m e
    return r.database.dialect.selectMatching m (some text)

def anyOf (r : Repository σ τ) (s : Statement) : Action σ Bool := do
  let rows ← r.database.query s
  return !rows.isEmpty

/-- A column of the first row of a statement: null if the row does not have it, nothing if there is no
row. -/
def valueOf (r : Repository σ τ) (s : Statement) (column : String) : Action σ (Option Value) := do
  let rows ← r.database.query s
  return rows.head?.map fun row => (row.get? column).getD .null

def any (r : Repository σ τ) (filter : Expr) : Action σ Bool := do
  let s ← r.selection (some filter)
  r.anyOf s

def deleteWhere (r : Repository σ τ) (filter : Expr) : Action σ Nat := do
  let m ← r.mapping
  let text ← fragment m filter
  r.database.exec (r.database.dialect.deleteMatching m text)

def located {α : Type} (place : Option String) (result : Except Error α) : Except Error α :=
  match place, result with
  | some text, .error e => .error (e.context text)
  | _, _ => result

theorem located_eq_ok_iff {α : Type} {place : Option String} {result : Except Error α} {a : α} :
    located place result = .ok a ↔ result = .ok a := by
  cases result with
  | ok b => cases place <;> rfl
  | error e => cases place <;> simp [located]

variable [FieldTypes τ]

def loadRows (m : Model τ) : List Row → Except Error (List (Record m.fields))
  | [] => .ok []
  | row :: rest =>
    match Record.ofRow m.fields row with
    | .error e => .error e
    | .ok record => (loadRows m rest).map fun records => record :: records

/-- The record in the first row of a statement; later rows are not looked at. -/
def firstOf (r : Repository σ τ) (s : Statement) : Action σ (Option (Record r.model.fields)) := do
  let rows ← r.database.query s
  match rows with
  | [] => return none
  | row :: _ =>
    let record ← Action.ofExcept (Record.ofRow r.model.fields row)
    return some record

def allOf (r : Repository σ τ) (s : Statement) : Action σ (List (Record r.model.fields)) := do
  let rows ← r.database.query s
  Action.ofExcept (loadRows r.model rows)

def first (r : Repository σ τ) (filter : Expr) : Action σ (Option (Record r.model.fields)) := do
  let s ← r.selection (some filter)
  r.firstOf s

def all (r : Repository σ τ) (filter : Option Expr) : Action σ (List (Record r.model.fields)) := do
  let s ← r.selection filter
  r.allOf s

def write (r : Repository σ τ) (verb : Verb) (record : Record r.model.fields) : Action σ Nat := do
  let m ← r.mapping
  let s ← Action.ofExcept (located (r.model.place verb false)
    (r.database.dialect.single verb m (record.toValues r.model.fields)))
  r.database.exec s

/-- Writes records in one statement; an empty batch does not reach the connection. -/
def writeMany (r : Repository σ τ) (verb : Verb) (records : List (Record r.model.fields)) :
    Action σ Nat := do
  let m ← r.mapping
  let s ← Action.ofExcept (located (r.model.place verb true)
    (r.database.dialect.batch verb m (records.map (Record.toValues r.model.fields))))
  match s with
  | none => return 0
  | some s => r.database.exec s

end Repository

end RecordMapper
