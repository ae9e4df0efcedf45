import RecordMapper.Connection.Recorder
import RecordMapper.Repository
/-!
# Jobs

A job is one thing that a program asks of a database: a statement to send, or something to do in the
repository of a model. What comes of it is a reply with dynamic values, so that jobs about different
models stand in one run.
-/

namespace RecordMapper

/-- What a repository can be asked to do. Records of the model are given as elements of `ρ`. -/
inductive Request (ρ : Type := List Value) where
  | mapping
  | shown
  | any (filter : Expr)
  | first (filter : Expr)
  | all (filter : Option Expr)
  | anyOf (s : Statement)
  | firstOf (s : Statement)
  | allOf (s : Statement)
  | valueOf (s : Statement) (column : String)
  | write (verb : Verb) (record : ρ)
  | writeMany (verb : Verb) (records : List ρ)
  | deleteWhere (filter : Expr)
  /-- Sends a statement through the repository's database. -/
  | exec (s : Statement)

inductive Reply where
  | done
  | flag (b : Bool)
  | count (rows : Nat)
  | value (v : Value)
  | optionalValue (v : Option Value)
  | rows (rows : List Row)
  | record (values : Option (List Value))
  | records (values : List (List Value))
  | mapping (m : EntityMapping)
  | text (s : String)
  | exchange (e : Option Exchange)
  /-- A log's length, and how many operations of each purpose it holds. -/
  | summary (size executes queries scalars : Nat)

abbrev Model.Instance {τ : Type} [FieldTypes τ] (m : Model τ) : Type := Record m.fields

variable {σ τ : Type}

inductive Job (τ : Type) (ρ : Model τ → Type) where
  | send (purpose : Purpose) (s : Statement)
  | use (model : Model τ) (request : Request (ρ model))

variable [FieldTypes τ]

namespace Request

def load (fields : List (ModelField τ)) : Request → Except Error (Request (Record fields))
  | mapping => .ok mapping
  | shown => .ok shown
  | any filter => .ok (any filter)
  | first filter => .ok (first filter)
  | all filter => .ok (all filter)
  | anyOf s => .ok (anyOf s)
  | firstOf s => .ok (firstOf s)
  | allOf s => .ok (allOf s)
  | valueOf s column => .ok (valueOf s column)
  | write verb values => (Record.ofValues fields values).map (write verb)
  | writeMany verb values => (values.mapM (Record.ofValues fields)).map (writeMany verb)
  | deleteWhere filter => .ok (deleteWhere filter)
  | exec s => .ok (exec s)

end Request

def Repository.perform (r : Repository σ τ) : Request r.model.Instance → Action σ Reply
  | .mapping => return .mapping (← r.mapping)
  | .shown => return .text r.shown
  | .any filter => return .flag (← r.any filter)
  | .first filter => return .record ((← r.first filter).map (Record.toValues r.model.fields))
  | .all filter => return .records ((← r.all filter).map (Record.toValues r.model.fields))
  | .anyOf s => return .flag (← r.anyOf s)
  | .firstOf s => return .record ((← r.firstOf s).map (Record.toValues r.model.fields))
  | .allOf s => return .records ((← r.allOf s).map (Record.toValues r.model.fields))
  | .valueOf s column => return .optionalValue (← r.valueOf s column)
  | .write verb record => return .count (← r.write verb record)
  | .writeMany verb records => return .count (← r.writeMany verb records)
  | .deleteWhere filter => return .count (← r.deleteWhere filter)
  | .exec s => return .count (← r.database.exec s)

namespace Job

def perform (db : Database σ) : Job τ Model.Instance → Action σ Reply
  | send .execute s => return .count (← db.exec s)
  | send .query s => return .rows (← db.query s)
  | send .scalar s => return .value (← db.scalar s)
  | use model request => (⟨db, model⟩ : Repository σ τ).perform request

end Job

end RecordMapper
