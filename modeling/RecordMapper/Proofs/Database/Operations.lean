import RecordMapper.Proofs.Database.Exchange
import RecordMapper.Job
/-!
# Operations of repositories

A job builds a statement, or is given one, asks the connection once and looks at the answer. If there is
no statement it leaves the connection alone. Filters become the statements that the dialect makes of them,
and their text is told before they are sent.
-/

namespace RecordMapper

variable {σ τ α : Type}

def EntityMapping.announced (m : EntityMapping) (filter : Expr) : List JournalLine :=
  match filter.compile m with
  | .error _ => []
  | .ok text => [.compiled m.name text]

namespace Model

def announced (model : Model τ) (filter : Expr) : List JournalLine :=
  match model.describe with
  | .error _ => []
  | .ok m => m.announced filter

def selected (model : Model τ) (d : Dialect) (filter : Option Expr) : Except Error Statement := do
  let m ← model.describe
  d.select m filter

def deleted (model : Model τ) (d : Dialect) (filter : Expr) : Except Error Statement := do
  let m ← model.describe
  d.deleteWhere m filter

theorem bind_describe_eq_ok_iff {model : Model τ} {f : EntityMapping → Except Error α} {a : α} :
    model.describe >>= f = .ok a ↔ ∃ m, model.describe = .ok m ∧ f m = .ok a := by
  cases h : model.describe with
  | error e => simp [bind, Except.bind]
  | ok m => simp [bind, Except.bind]

variable [FieldTypes τ]

def written (model : Model τ) (d : Dialect) (verb : Verb) (record : model.Instance) :
    Except Error Statement := do
  let m ← model.describe
  Repository.located (model.place verb false) (d.single verb m (record.toValues model.fields))

def writtenMany (model : Model τ) (d : Dialect) (verb : Verb) (records : List model.Instance) :
    Except Error (Option Statement) := do
  let m ← model.describe
  Repository.located (model.place verb true)
    (d.batch verb m (records.map (Record.toValues model.fields)))

section Built

variable {model : Model τ} {d : Dialect} {verb : Verb}

theorem written_eq_ok_iff {record : model.Instance} {s : Statement} :
    model.written d verb record = .ok s ↔ ∃ m, model.describe = .ok m ∧
      d.single verb m (record.toValues model.fields) = .ok s := by
  rw [written, bind_describe_eq_ok_iff]
  simp only [Repository.located_eq_ok_iff]

theorem writtenMany_eq_ok_iff {records : List model.Instance} {s : Option Statement} :
    model.writtenMany d verb records = .ok s ↔ ∃ m, model.describe = .ok m ∧
      d.batch verb m (records.map (Record.toValues model.fields)) = .ok s := by
  rw [writtenMany, bind_describe_eq_ok_iff]
  simp only [Repository.located_eq_ok_iff]

end Built

end Model

theorem EntityMapping.announced_eq_nil {m : EntityMapping} {filter : Expr} {e : Error}
    (h : filter.compile m = .error e) : m.announced filter = [] := by
  rw [announced, h]

/-- Nothing is told of a filter that comes to no statement. -/
theorem Model.announced_eq_nil {model : Model τ} {d : Dialect} {filter : Expr} {e : Error}
    (h : model.selected d (some filter) = .error e) : model.announced filter = [] := by
  unfold announced
  unfold selected at h
  cases hm : model.describe with
  | error e => rfl
  | ok m =>
    have hselect : d.select m (some filter) = .error e := by rwa [hm] at h
    dsimp only
    cases hc : filter.compile m with
    | error e => exact EntityMapping.announced_eq_nil hc
    | ok text =>
      rw [Dialect.select, hc] at hselect
      cases hselect

namespace Repository

open RecordMapper.Action

variable (r : Repository σ τ)

theorem still_fragment (m : EntityMapping) (filter : Expr) :
    (fragment m filter : Action σ String).Still (m.announced filter) (filter.compile m) := by
  unfold fragment EntityMapping.announced
  cases filter.compile m with
  | error e => exact (still_ofExcept _).bind_error
  | ok text => exact (still_ofExcept _).bind_still ((still_tell _).bind_still (still_ofExcept _))

theorem still_selection (filter : Option Expr) :
    (r.selection filter).Still (filter.elim [] r.model.announced)
      (r.model.selected r.database.dialect filter) := by
  unfold selection mapping Model.selected
  cases filter with
  | none =>
    cases r.model.describe with
    | error e => exact (still_ofExcept _).bind_error
    | ok m => exact still_ofExcept _
  | some e =>
    dsimp only [Option.elim]
    unfold Model.announced
    cases r.model.describe with
    | error e => exact (still_ofExcept _).bind_error
    | ok m =>
      exact Still.map (still_fragment m e) fun text => r.database.dialect.selectMatching m (some text)

theorem follows_selecting {ask : Statement → Action σ α} {read : Response → Except Error α}
    (hask : ∀ s, (ask s).Asks r.database [] ⟨.query, s⟩ read) (filter : Option Expr) :
    (r.selection filter >>= ask).Follows r.database (filter.elim [] r.model.announced)
      ((r.model.selected r.database.dialect filter).map fun s => some ⟨.query, s⟩) read := by
  refine (r.still_selection filter).follows ?_ hask
  intro e he
  cases filter with
  | none => rfl
  | some filter => exact Model.announced_eq_nil he

theorem follows_deleteWhere (filter : Expr) :
    (r.deleteWhere filter).Follows r.database (r.model.announced filter)
      ((r.model.deleted r.database.dialect filter).map fun s => some ⟨.execute, s⟩)
      Response.toCount := by
  unfold deleteWhere mapping Model.announced Model.deleted
  cases r.model.describe with
  | error e => exact (still_ofExcept _).bind_error
  | ok m =>
    have hbuilt : ((r.database.dialect.deleteWhere m filter).map fun s =>
        some (⟨.execute, s⟩ : Operation)) = (filter.compile m).map fun text =>
          some ⟨.execute, r.database.dialect.deleteMatching m text⟩ := by
      unfold Dialect.deleteWhere
      cases filter.compile m <;> rfl
    have h := (still_fragment m filter).follows (fun e he => EntityMapping.announced_eq_nil he)
      fun text => r.database.asks_exec (r.database.dialect.deleteMatching m text)
    rw [← hbuilt] at h
    exact h

theorem asks_anyOf (s : Statement) : (r.anyOf s).Asks r.database [] ⟨.query, s⟩
    fun response => response.toRows.bind fun rows => .ok (!rows.isEmpty) :=
  (r.database.asks_query s).bind fun _ => still_ofExcept _

theorem asks_valueOf (s : Statement) (column : String) :
    (r.valueOf s column).Asks r.database [] ⟨.query, s⟩ fun response => response.toRows.bind fun rows =>
      .ok (rows.head?.map fun row => (row.get? column).getD .null) :=
  (r.database.asks_query s).bind fun _ => still_ofExcept _

variable [FieldTypes τ]

def loadFirst (m : Model τ) : List Row → Except Error (Option (Record m.fields))
  | [] => .ok none
  | row :: _ => (Record.ofRow m.fields row).map some

theorem asks_firstOf (s : Statement) : (r.firstOf s).Asks r.database [] ⟨.query, s⟩
    fun response => response.toRows.bind (loadFirst r.model) := by
  refine (r.database.asks_query s).bind fun rows => ?_
  cases rows with
  | nil => exact still_ofExcept _
  | cons row rest => exact Still.map (still_ofExcept (Record.ofRow r.model.fields row)) some

theorem asks_allOf (s : Statement) : (r.allOf s).Asks r.database [] ⟨.query, s⟩
    fun response => response.toRows.bind (loadRows r.model) :=
  (r.database.asks_query s).bind fun _ => still_ofExcept _

theorem follows_write (verb : Verb) (record : r.model.Instance) :
    (r.write verb record).Follows r.database []
      ((r.model.written r.database.dialect verb record).map fun s => some ⟨.execute, s⟩)
      Response.toCount := by
  unfold write mapping Model.written
  cases r.model.describe with
  | error e => exact (still_ofExcept _).bind_error
  | ok m => exact follows_ofExcept_bind r.database.asks_exec

theorem follows_writeMany (verb : Verb) (records : List r.model.Instance) :
    (r.writeMany verb records).Follows r.database []
      ((r.model.writtenMany r.database.dialect verb records).map fun s => s.map (⟨.execute, ·⟩))
      Response.toCount := by
  unfold writeMany mapping Model.writtenMany
  cases r.model.describe with
  | error e => exact (still_ofExcept _).bind_error
  | ok m =>
    refine follows_ofExcept_bind fun s => ?_
    cases s with
    | none => exact ⟨0, still_ofExcept _⟩
    | some s => exact r.database.asks_exec s

end Repository

variable [FieldTypes τ]

namespace Model

variable (model : Model τ)

/-- What a request asks of the connection: a statement that the dialect makes once the model has a mapping,
or one that was given. -/
def operation (d : Dialect) : Request model.Instance → Except Error (Option Operation)
  | .mapping => model.describe.map fun _ => none
  | .shown => .ok none
  | .any filter | .first filter =>
    (model.selected d (some filter)).map fun s => some ⟨.query, s⟩
  | .all filter => (model.selected d filter).map fun s => some ⟨.query, s⟩
  | .anyOf s | .firstOf s | .allOf s | .valueOf s _ => .ok (some ⟨.query, s⟩)
  | .write verb record => (model.written d verb record).map fun s => some ⟨.execute, s⟩
  | .writeMany verb records =>
    (model.writtenMany d verb records).map fun s => s.map (⟨.execute, ·⟩)
  | .deleteWhere filter => (model.deleted d filter).map fun s => some ⟨.execute, s⟩
  | .exec s => .ok (some ⟨.execute, s⟩)

def preamble : Request model.Instance → List JournalLine
  | .any filter | .first filter | .all (some filter) | .deleteWhere filter => model.announced filter
  | _ => []

theorem perform_follows (db : Database σ) (request : Request model.Instance) :
    ∃ read, ((⟨db, model⟩ : Repository σ τ).perform request).Follows db (model.preamble request)
      (model.operation db.dialect request) read := by
  let r : Repository σ τ := ⟨db, model⟩
  cases request with
  | mapping =>
    refine ⟨fun _ => .ok .done, ?_⟩
    unfold operation
    have h : (r.mapping >>= fun m => pure (Reply.mapping m)).Still []
      (model.describe.map Reply.mapping) := Action.Still.map (Action.still_ofExcept _) _
    revert h
    cases model.describe with
    | error e => exact id
    | ok m => exact fun h => ⟨_, h⟩
  | shown => exact ⟨fun _ => .ok .done, _, Action.still_ofExcept _⟩
  | any filter => exact ⟨_, (r.follows_selecting r.asks_anyOf (some filter)).map _⟩
  | first filter => exact ⟨_, (r.follows_selecting r.asks_firstOf (some filter)).map _⟩
  | all filter =>
    cases filter with
    | none => exact ⟨_, (r.follows_selecting r.asks_allOf none).map _⟩
    | some filter => exact ⟨_, (r.follows_selecting r.asks_allOf (some filter)).map _⟩
  | anyOf s => exact ⟨_, (r.asks_anyOf s).follows.map _⟩
  | firstOf s => exact ⟨_, (r.asks_firstOf s).follows.map _⟩
  | allOf s => exact ⟨_, (r.asks_allOf s).follows.map _⟩
  | valueOf s column => exact ⟨_, (r.asks_valueOf s column).follows.map _⟩
  | write verb record => exact ⟨_, (r.follows_write verb record).map _⟩
  | writeMany verb records => exact ⟨_, (r.follows_writeMany verb records).map _⟩
  | deleteWhere filter => exact ⟨_, (r.follows_deleteWhere filter).map _⟩
  | exec s => exact ⟨_, (db.asks_exec s).follows.map _⟩

end Model

namespace Job

def operation (d : Dialect) : Job τ Model.Instance → Except Error (Option Operation)
  | send purpose s => .ok (some ⟨purpose, s⟩)
  | use model request => model.operation d request

def operation? (d : Dialect) (t : Job τ Model.Instance) : Option Operation :=
  match t.operation d with
  | .error _ => none
  | .ok op => op

def preamble : Job τ Model.Instance → List JournalLine
  | send _ _ => []
  | use model request => model.preamble request

/-- Whatever a job is, it asks its operation, once. -/
theorem perform_follows (db : Database σ) (t : Job τ Model.Instance) :
    ∃ read, (t.perform db).Follows db t.preamble (t.operation db.dialect) read := by
  cases t with
  | send purpose s =>
    cases purpose with
    | execute => exact ⟨_, (db.asks_exec s).follows.map _⟩
    | query => exact ⟨_, (db.asks_query s).follows.map _⟩
    | scalar => exact ⟨_, (db.asks_scalar s).follows.map _⟩
  | use model request => exact model.perform_follows db request

end Job

end RecordMapper
