import RecordMapper.Connection.Basic
import RecordMapper.Journal
import RecordMapper.Mapping.Registry
import RecordMapper.Statement.Record
/-!
# Databases

A database joins a dialect with a connection. An action on it yields a result or an error, tells lines
for the journal, and moves the state of the connection; what was told before a failure stays told.
-/

namespace RecordMapper

structure Outcome (σ α : Type) where
  result : Except Error α
  journal : List JournalLine
  state : σ

/-- Something to do with a connection whose state is `σ`. -/
def Action (σ α : Type) := σ → Outcome σ α

namespace Action

variable {σ α β : Type}

def ofExcept (result : Except Error α) : Action σ α := fun s => ⟨result, [], s⟩

def tell (line : JournalLine) : Action σ Unit := fun s => ⟨.ok (), [line], s⟩

def pure (a : α) : Action σ α := ofExcept (.ok a)

def bind (x : Action σ α) (f : α → Action σ β) : Action σ β := fun s =>
  match x s with
  | ⟨.error e, journal, s'⟩ => ⟨.error e, journal, s'⟩
  | ⟨.ok a, journal, s'⟩ =>
    let next := f a s'
    { next with journal := journal ++ next.journal }

instance : Monad (Action σ) where
  pure := pure
  bind := bind

end Action

structure Database (σ : Type) where
  dialect : Dialect
  connection : Connection σ

namespace Database

variable {σ : Type}

def send (db : Database σ) (purpose : Purpose) (s : Statement) : Action σ Response := do
  Action.tell (.sent purpose.name s.text s.names)
  fun state =>
    let (response, state') := db.connection.exec ⟨purpose, s⟩ state
    ⟨response, [], state'⟩

def exec (db : Database σ) (s : Statement) : Action σ Nat := do
  let response ← db.send .execute s
  let rows ← Action.ofExcept response.toCount
  Action.tell (.affected rows)
  return rows

def scalar (db : Database σ) (s : Statement) : Action σ Value := do
  let response ← db.send .scalar s
  Action.ofExcept response.toScalar

def query (db : Database σ) (s : Statement) : Action σ (List Row) := do
  let response ← db.send .query s
  let rows ← Action.ofExcept response.toRows
  Action.tell (.returned rows.length)
  return rows

def registration (m : EntityMapping) : JournalLine := .registered m.name m.table m.fields.length

/-- Registers types in order: each mapping is resolved and told of, up to the first failure. -/
def register {κ : Type} [DecidableEq κ] (describe : Describer κ σ) :
    List κ → Action (Registry κ × σ) Unit
  | [] => Action.pure ()
  | type :: rest => do
    let mapping ← fun state =>
      let (result, state') := Registry.resolve describe type state
      ⟨result, [], state'⟩
    Action.tell (registration mapping)
    register describe rest

end Database

end RecordMapper
