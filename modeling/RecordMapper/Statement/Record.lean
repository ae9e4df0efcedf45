import RecordMapper.Predicate.Compile
import RecordMapper.Statement.Dialect
/-!
# Statements about records

A record is the list of its field values in the order of declaration. Which fields a verb binds
depends on the mapping and on which values are null, never on the values themselves, and no update or
deletion of a record is worded without a key. In a batch each placeholder carries the number of its
record, so that names do not meet.

To word a statement the dialect is handed its parts. A building keeps a note of what it was handed, also
where a later record fails.
-/

namespace RecordMapper

abbrev FieldValue := FieldMapping × Value

namespace FieldValue

def placeholder (index : Option Nat) (f : FieldMapping) : String :=
  match index with
  | none => "@" ++ f.source
  | some i => "@" ++ f.source ++ "_" ++ Decimal.natText i

def assignment (index : Option Nat) (b : FieldValue) : Assignment :=
  ⟨b.1.column, placeholder index b.1⟩

def parameter (index : Option Nat) (b : FieldValue) : Parameter :=
  ⟨placeholder index b.1, b.2⟩

/-- An insertion writes what is not null, except keys that the store assigns. -/
def isInserted (b : FieldValue) : Bool := !b.1.isAutoIncrement && !b.2.isNull

/-- An update identifies its row by every key, null or not. -/
def isKey (b : FieldValue) : Bool := b.1.isKey

/-- An update sets the fields outside the key that are not null. -/
def isSet (b : FieldValue) : Bool := !b.1.isKey && !b.2.isNull

def isUpdated (b : FieldValue) : Bool := b.isKey || b.isSet

end FieldValue

namespace EntityMapping

def bindings (m : EntityMapping) (record : List Value) : Except Error (List FieldValue) :=
  if m.fields.length = record.length then .ok (m.fields.zip record)
  else .error (Error.ofCause (.invalidStatement
    ("record has " ++ Decimal.natText record.length ++ " values but `" ++ m.name ++ "` maps " ++
      Decimal.natText m.fields.length ++ " fields")))

/-- Without a key an update or a deletion would reach every row. -/
def requireKeys (m : EntityMapping) : Except Error Unit :=
  if m.hasKeys then .ok () else .error (Error.ofCause (.noKeyDefined m.name))

def insertion (m : EntityMapping) (index : Option Nat) (bound : List FieldValue) : Insertion :=
  ⟨m.table, (bound.filter FieldValue.isInserted).map (FieldValue.assignment index)⟩

def modification (m : EntityMapping) (index : Option Nat) (bound : List FieldValue) :
    Modification :=
  ⟨m.table, (bound.filter FieldValue.isSet).map (FieldValue.assignment index),
    (bound.filter FieldValue.isKey).map (FieldValue.assignment index)⟩

def deletion (m : EntityMapping) (index : Option Nat) (bound : List FieldValue) : Deletion :=
  ⟨m.table, .keys ((bound.filter FieldValue.isKey).map (FieldValue.assignment index))⟩

def nothingToUpdate (m : EntityMapping) : Error :=
  Error.ofCause (.invalidStatement
    ("nothing to update on `" ++ m.name ++ "`; every non-key field is null"))

end EntityMapping

inductive Verb where
  | insert | update | delete
deriving DecidableEq

namespace Verb

def needsKeys : Verb → Bool
  | insert => false
  | update | delete => true

def binds : Verb → FieldValue → Bool
  | insert => FieldValue.isInserted
  | update => FieldValue.isUpdated
  | delete => FieldValue.isKey

end Verb

inductive Parts where
  | insertion (p : Insertion)
  | modification (p : Modification)
  | deletion (p : Deletion)

def Verb.parts (verb : Verb) (m : EntityMapping) (index : Option Nat) (bound : List FieldValue) :
    Parts :=
  match verb with
  | .insert => .insertion (m.insertion index bound)
  | .update => .modification (m.modification index bound)
  | .delete => .deletion (m.deletion index bound)

/-- What building came to, and the parts that the dialect had been handed by then. -/
structure Watched (α : Type) where
  handed : List Parts
  result : Except Error α

namespace Watched

variable {α β : Type}

def ofExcept (result : Except Error α) : Watched α := ⟨[], result⟩

/-- What was handed over before a failure stays handed over. -/
def bind (x : Watched α) (f : α → Watched β) : Watched β :=
  match x.result with
  | .error e => ⟨x.handed, .error e⟩
  | .ok a => ⟨x.handed ++ (f a).handed, (f a).result⟩

instance : Monad Watched where
  pure a := ofExcept (.ok a)
  bind := bind

def mapError (f : Error → Error) (x : Watched α) : Watched α := ⟨x.handed, x.result.mapError f⟩

theorem result_bind (x : Watched α) (f : α → Watched β) :
    (x >>= f).result = x.result.bind fun a => (f a).result := by
  change (Watched.bind x f).result = _
  unfold bind
  cases x.result <;> rfl

end Watched

namespace Dialect

def text (d : Dialect) : Parts → String
  | .insertion p => d.insertion p
  | .modification p => d.modification p
  | .deletion p => d.deletion p

def wording (d : Dialect) (verb : Verb) (m : EntityMapping) (index : Option Nat)
    (bound : List FieldValue) : String :=
  d.text (verb.parts m index bound)

def handOver (d : Dialect) (p : Parts) : Watched String := ⟨[p], .ok (d.text p)⟩

def numberedWatched (d : Dialect) (verb : Verb) (m : EntityMapping) (index : Option Nat)
    (record : List Value) : Watched Statement := do
  let bound ← Watched.ofExcept (m.bindings record)
  if verb = .update ∧ (bound.filter FieldValue.isSet).isEmpty then
    Watched.ofExcept (.error m.nothingToUpdate)
  else
    let text ← d.handOver (verb.parts m index bound)
    return ⟨text, (bound.filter verb.binds).map (FieldValue.parameter index)⟩

def checkKeys (verb : Verb) (m : EntityMapping) : Except Error Unit :=
  if verb.needsKeys then m.requireKeys else .ok ()

def singleWatched (d : Dialect) (verb : Verb) (m : EntityMapping) (record : List Value) :
    Watched Statement := do
  Watched.ofExcept (checkKeys verb m)
  d.numberedWatched verb m none record

def statementsWatched (d : Dialect) (verb : Verb) (m : EntityMapping) (first : Nat) :
    List (List Value) → Watched (List Statement)
  | [] => return []
  | record :: rest => do
    let s ← (d.numberedWatched verb m (some first) record).mapError fun e =>
      e.context ("record " ++ Decimal.natText first ++ " of batch")
    let ss ← statementsWatched d verb m (first + 1) rest
    return s :: ss

/-- The statement of a verb for a batch of records; none for an empty batch. -/
def batchWatched (d : Dialect) (verb : Verb) (m : EntityMapping) (records : List (List Value)) :
    Watched (Option Statement) :=
  if records.isEmpty then return none
  else do
    Watched.ofExcept (checkKeys verb m)
    let ss ← d.statementsWatched verb m 0 records
    return some (Statement.concat ss)

section Result

variable (d : Dialect) (verb : Verb) (m : EntityMapping)

def numbered (index : Option Nat) (record : List Value) : Except Error Statement :=
  (d.numberedWatched verb m index record).result

def single (record : List Value) : Except Error Statement := (d.singleWatched verb m record).result

def statements (first : Nat) (records : List (List Value)) : Except Error (List Statement) :=
  (d.statementsWatched verb m first records).result

def batch (records : List (List Value)) : Except Error (Option Statement) :=
  (d.batchWatched verb m records).result

variable {d verb m}

theorem numbered_eq {index : Option Nat} {record : List Value} :
    d.numbered verb m index record =
      match m.bindings record with
      | .error e => .error e
      | .ok bound =>
        if verb = .update ∧ (bound.filter FieldValue.isSet).isEmpty then .error m.nothingToUpdate
        else .ok ⟨d.wording verb m index bound,
          (bound.filter verb.binds).map (FieldValue.parameter index)⟩ := by
  rw [numbered, numberedWatched, Watched.result_bind, Watched.ofExcept]
  cases m.bindings record with
  | error e => rfl
  | ok bound =>
    dsimp only [Except.bind]
    split <;> rfl

theorem single_eq {record : List Value} :
    d.single verb m record =
      match checkKeys verb m with
      | .error e => .error e
      | .ok () => d.numbered verb m none record := by
  rw [single, singleWatched, Watched.result_bind, Watched.ofExcept]
  cases checkKeys verb m <;> rfl

theorem statements_nil {first : Nat} : d.statements verb m first [] = .ok [] := rfl

theorem statements_cons {first : Nat} {record : List Value} {rest : List (List Value)} :
    d.statements verb m first (record :: rest) =
      match d.numbered verb m (some first) record with
      | .error e => .error (e.context ("record " ++ Decimal.natText first ++ " of batch"))
      | .ok s => (d.statements verb m (first + 1) rest).map fun ss => s :: ss := by
  rw [statements, statementsWatched, Watched.result_bind, Watched.mapError, numbered]
  cases (d.numberedWatched verb m (some first) record).result with
  | error e => rfl
  | ok s =>
    dsimp only [Except.mapError, Except.bind]
    rw [Watched.result_bind, statements]
    rfl

theorem batch_eq {records : List (List Value)} :
    d.batch verb m records =
      if records.isEmpty then .ok none
      else
        match checkKeys verb m with
        | .error e => .error e
        | .ok () => (d.statements verb m 0 records).map fun ss => some (Statement.concat ss) := by
  rw [batch, batchWatched]
  split
  · rfl
  · rw [Watched.result_bind, Watched.ofExcept]
    cases checkKeys verb m with
    | error e => rfl
    | ok _ =>
      dsimp only [Except.bind]
      rw [Watched.result_bind]
      rfl

end Result

def deleteMatching (d : Dialect) (m : EntityMapping) (predicate : String) : Statement :=
  Statement.ofText (d.deletion ⟨m.table, .predicate predicate⟩)

def selectMatching (d : Dialect) (m : EntityMapping) (predicate : Option String) : Statement :=
  Statement.ofText (d.selection ⟨m.table, predicate⟩)

def deleteWhere (d : Dialect) (m : EntityMapping) (filter : Expr) : Except Error Statement :=
  (filter.compile m).map (d.deleteMatching m)

def select (d : Dialect) (m : EntityMapping) (filter : Option Expr) : Except Error Statement :=
  match filter with
  | none => .ok (d.selectMatching m none)
  | some e => (e.compile m).map fun text => d.selectMatching m (some text)

end Dialect

end RecordMapper
