import RecordMapper.Proofs.Database.Operations
import RecordMapper.Proofs.Statement.Secrecy
/-!
# The journal does not tell values

What a run of jobs tells is decided by the texts and parameter names that it sends and by the answers that
it gets. So of two runs with records that are null in the same places and with the same answers, whatever
the connections are, the journals are the same.
-/

namespace RecordMapper

def Outcome.trace {σ α : Type} (o : Outcome σ α) : List JournalLine × σ := (o.journal, o.state)

def Connection.noting {σ : Type} (c : Connection σ) :
    Connection (σ × List (Except Error Response)) where
  exec op state :=
    let (response, state') := c.exec op state.1
    (response, state', state.2 ++ [response])

structure Operation.SameShape (op op' : Operation) : Prop where
  purpose : op.purpose = op'.purpose
  statement : op.statement.SameShape op'.statement

theorem Operation.told_congr {op op' : Operation} (h : op.SameShape op')
    (answer : Except Error Response) : op.told answer = op'.told answer := by
  rw [told, told, h.purpose, h.statement.text, h.statement.names]

namespace Agree

variable {α β γ δ : Type} {related : α → β → Prop} {x : Except Error α} {y : Except Error β}

theorem refl {related : α → α → Prop} (hrelated : ∀ a, related a a) (x : Except Error α) :
    Agree related x x := by
  cases x with
  | ok a => exact .ok (hrelated a)
  | error e => exact .error e

theorem bind {related' : γ → δ → Prop} {f : α → Except Error γ} {g : β → Except Error δ}
    (h : Agree related x y) (hfg : ∀ a b, related a b → Agree related' (f a) (g b)) :
    Agree related' (x >>= f) (y >>= g) := by
  cases h with
  | ok hab => exact hfg _ _ hab
  | error e => exact .error e

theorem located (h : Agree related x y) (place : Option String) :
    Agree related (Repository.located place x) (Repository.located place y) := by
  cases h with
  | ok hab => cases place <;> exact .ok hab
  | error e => cases place <;> exact .error _

end Agree

namespace Job

variable {σ τ : Type} [FieldTypes τ]

/-- All that is told while one job is done after the other, and the last state of the connection.
Failures do not end a run. -/
def run (db : Database σ) : List (Job τ Model.Instance) → σ → List JournalLine × σ
  | [], state => ([], state)
  | t :: rest, state =>
    let (told, state') := (t.perform db state).trace
    let (more, last) := run db rest state'
    (told ++ more, last)

def replies (db : Database σ) (ts : List (Job τ Model.Instance)) (state : σ) :
    List (Except Error Response) :=
  (run ⟨db.dialect, db.connection.noting⟩ ts (state, [])).2.2

theorem trace_perform (db : Database σ) (state : σ) (t : Job τ Model.Instance) :
    (t.perform db state).trace = match t.operation? db.dialect with
      | none => ([], state)
      | some op => (t.preamble ++ op.told (db.connection.exec op state).1,
          (db.connection.exec op state).2) := by
  obtain ⟨read, h⟩ := t.perform_follows db
  rw [operation?]
  cases hop : t.operation db.dialect with
  | error e =>
    rw [hop] at h
    rw [h state]
    rfl
  | ok op =>
    rw [hop] at h
    cases op with
    | none =>
      obtain ⟨reply, h⟩ := h
      rw [h state]
      rfl
    | some op =>
      rw [h state]
      rfl

theorem run_cons (db : Database σ) (t : Job τ Model.Instance) (rest : List (Job τ Model.Instance))
    (state : σ) :
    run db (t :: rest) state = match t.operation? db.dialect with
      | none => run db rest state
      | some op =>
        (t.preamble ++ op.told (db.connection.exec op state).1 ++
            (run db rest (db.connection.exec op state).2).1,
          (run db rest (db.connection.exec op state).2).2) := by
  rw [run, trace_perform]
  cases t.operation? db.dialect <;> rfl

theorem run_noting (db : Database σ) (ts : List (Job τ Model.Instance)) (state : σ)
    (earlier : List (Except Error Response)) :
    (run ⟨db.dialect, db.connection.noting⟩ ts (state, earlier)).2.2 =
      earlier ++ replies db ts state := by
  induction ts generalizing state earlier with
  | nil => exact (List.append_nil earlier).symm
  | cons t rest ih =>
    rw [replies, run_cons, run_cons]
    dsimp only
    cases t.operation? db.dialect with
    | none => exact ih state earlier
    | some op =>
      let answer := (db.connection.exec op state).1
      have htail := ih (db.connection.exec op state).2 (earlier ++ [answer])
      have hone := ih (db.connection.exec op state).2 [answer]
      rw [List.append_assoc, ← hone] at htail
      exact htail

theorem replies_cons (db : Database σ) (t : Job τ Model.Instance)
    (rest : List (Job τ Model.Instance)) (state : σ) :
    replies db (t :: rest) state = match t.operation? db.dialect with
      | none => replies db rest state
      | some op =>
        (db.connection.exec op state).1 :: replies db rest (db.connection.exec op state).2 := by
  rw [replies, run_cons]
  dsimp only
  cases t.operation? db.dialect with
  | none => rfl
  | some op => exact run_noting db rest _ [(db.connection.exec op state).1]

/-- The same job with other values: in records of one model that are null in the same places, or in the
parameters of a statement. -/
inductive SameShape : Job τ Model.Instance → Job τ Model.Instance → Prop where
  | same (t : Job τ Model.Instance) : SameShape t t
  | write {model : Model τ} {verb : Verb} {record record' : model.Instance} :
      SameNulls (record.toValues model.fields) (record'.toValues model.fields) →
      SameShape (.use model (.write verb record)) (.use model (.write verb record'))
  | writeMany {model : Model τ} {verb : Verb} {records records' : List model.Instance} :
      List.Forall₂ SameNulls (records.map (Record.toValues model.fields))
        (records'.map (Record.toValues model.fields)) →
      SameShape (.use model (.writeMany verb records)) (.use model (.writeMany verb records'))
  | send {purpose : Purpose} {s s' : Statement} :
      s.SameShape s' → SameShape (.send purpose s) (.send purpose s')

theorem SameShape.preamble_eq {t u : Job τ Model.Instance} (h : SameShape t u) :
    t.preamble = u.preamble := by
  cases h <;> rfl

theorem SameShape.operation_agree {t u : Job τ Model.Instance} (h : SameShape t u) (d : Dialect) :
    Agree (Option.Rel Operation.SameShape) (t.operation d) (u.operation d) := by
  cases h with
  | same t =>
    refine .refl (fun op => ?_) _
    cases op with
    | none => exact .none
    | some op => exact .some ⟨rfl, rfl, rfl⟩
  | @write model verb record record' h =>
    have hmapping : Agree Eq model.describe model.describe := .refl (fun _ => rfl) _
    refine (hmapping.bind ?_).map fun s s' hs => .some ⟨rfl, hs⟩
    rintro m _ rfl
    exact (Dialect.single_agree h).located _
  | @writeMany model verb records records' h =>
    have hmapping : Agree Eq model.describe model.describe := .refl (fun _ => rfl) _
    have hbatch : Agree (Option.Rel Statement.SameShape) (model.writtenMany d verb records)
        (model.writtenMany d verb records') := by
      refine hmapping.bind ?_
      rintro m _ rfl
      exact (Dialect.batch_agree h).located _
    refine hbatch.map fun s s' hs => ?_
    cases hs with
    | none => exact .none
    | some hs => exact .some ⟨rfl, hs⟩
  | send h => exact .ok (.some ⟨rfl, h⟩)

theorem SameShape.rel_operation? {t u : Job τ Model.Instance} (h : SameShape t u) (d : Dialect) :
    Option.Rel Operation.SameShape (t.operation? d) (u.operation? d) := by
  rw [operation?, operation?]
  rcases (h.operation_agree d).eq_error_or_eq_ok with ⟨e, ht, hu⟩ | ⟨op, op', ht, hu, hop⟩
  · rw [ht, hu]
    exact .none
  · rw [ht, hu]
    exact hop

/-- One job after the other: equal answers so far keep the journals equal, in whatever states the
connections are. -/
theorem journal_run_eq {σ' : Type} {db : Database σ} {db' : Database σ'}
    (hd : db.dialect = db'.dialect) {ts us : List (Job τ Model.Instance)}
    (h : List.Forall₂ SameShape ts us) {state : σ} {state' : σ'}
    (hreplies : replies db ts state = replies db' us state') :
    (run db ts state).1 = (run db' us state').1 := by
  induction h generalizing state state' with
  | nil => rfl
  | @cons t u _ _ htu _ ih =>
    rw [replies_cons, replies_cons] at hreplies
    rw [run_cons, run_cons, htu.preamble_eq]
    rw [← hd] at hreplies ⊢
    generalize t.operation? db.dialect = asked, u.operation? db.dialect = asked',
      htu.rel_operation? db.dialect = hop at hreplies ⊢
    cases hop with
    | none => exact ih hreplies
    | some hop =>
      obtain ⟨hanswer, hrest⟩ := List.cons.inj hreplies
      dsimp only
      rw [ih hrest, hanswer, Operation.told_congr hop]

end Job

/-- Values stay out of texts and journals. Records that are null in the same places become statements of
one shape or fail with one error; runs that differ in such records, and in values of given statements,
tell the same to the letter if they are answered the same. What else is done in a run is done in both. -/
theorem values_unseen (d : Dialect) :
    (∀ verb m record record', SameNulls record record' →
      Agree Statement.SameShape (d.single verb m record) (d.single verb m record')) ∧
    (∀ verb m records records', List.Forall₂ SameNulls records records' →
      Agree (Option.Rel Statement.SameShape) (d.batch verb m records) (d.batch verb m records')) ∧
    ∀ (τ : Type) [FieldTypes τ] (σ σ' : Type) (c : Connection σ) (c' : Connection σ') (state : σ)
      (state' : σ') (xs ys : List (Job τ Model.Instance)), List.Forall₂ Job.SameShape xs ys →
      Job.replies ⟨d, c⟩ xs state = Job.replies ⟨d, c'⟩ ys state' →
      (Job.run ⟨d, c⟩ xs state).1 = (Job.run ⟨d, c'⟩ ys state').1 := by
  refine ⟨?_, ?_, ?_⟩
  · intro verb m record record' h
    exact Dialect.single_agree h
  · intro verb m records records' h
    exact Dialect.batch_agree h
  · intro τ _ σ σ' c c' state state' xs ys h hreplies
    have hd : (⟨d, c⟩ : Database σ).dialect = (⟨d, c'⟩ : Database σ').dialect := rfl
    exact Job.journal_run_eq hd h hreplies

/-- Two runs with an update that fails, a batch, a query and a read, one on a recorder and one on a
connection that counts. -/
theorem values_unseen_two_connections :
    let model : Model := ⟨"User", "User", none,
      [⟨"id", none, true, false, .int32⟩, ⟨"name", none, false, false, .option .string⟩]⟩
    let named (id : Int32) (name : String) : Record model.fields := (id, some name, ())
    let unnamed (id : Int32) : Record model.fields := (id, none, ())
    let counting : Connection Nat := ⟨fun _ n => (.ok (.count n), n + 1)⟩
    let recorder : Recorder := ⟨[.ok (.count 0), .ok (.count 1), .ok (.count 2), .ok (.count 3)], []⟩
    let xs : List (Job FieldType Model.Instance) := [.use model (.write .insert (named 1 "ada")),
      .use model (.write .update (unnamed 1)),
      .use model (.writeMany .delete [named 1 "ada", unnamed 2]),
      .send .query ⟨"SELECT @name", [⟨"@name", .string "ada"⟩]⟩, .use model (.all none)]
    let ys : List (Job FieldType Model.Instance) := [.use model (.write .insert (named 7 "'; --")),
      .use model (.write .update (unnamed 8)),
      .use model (.writeMany .delete [named 9 "", unnamed 9]),
      .send .query ⟨"SELECT @name", [⟨"@name", .null⟩]⟩, .use model (.all none)]
    List.Forall₂ Job.SameShape xs ys ∧
      Job.replies ⟨.standard, Recorder.connection⟩ xs recorder =
        Job.replies ⟨.standard, counting⟩ ys 0 ∧
      (Job.run ⟨.standard, Recorder.connection⟩ xs recorder).1 =
        (Job.run ⟨.standard, counting⟩ ys 0).1 := by
  intro model named unnamed counting recorder xs ys
  have hnulls (id id' : Int32) (name name' : String) :
      SameNulls ((named id name).toValues model.fields) ((named id' name').toValues model.fields) :=
    .cons rfl (.cons rfl .nil)
  have hunset (id id' : Int32) :
      SameNulls ((unnamed id).toValues model.fields) ((unnamed id').toValues model.fields) :=
    .cons rfl (.cons rfl .nil)
  have hshape : List.Forall₂ Job.SameShape xs ys :=
    .cons (.write (hnulls ..)) (.cons (.write (hunset ..)) (.cons
      (.writeMany (.cons (hnulls ..) (.cons (hunset ..) .nil))) (.cons (.send ⟨rfl, rfl⟩)
        (.cons (.same _) .nil))))
  have hreplies : Job.replies ⟨.standard, Recorder.connection⟩ xs recorder =
      Job.replies ⟨.standard, counting⟩ ys 0 := rfl
  exact ⟨hshape, hreplies, (values_unseen .standard).2.2 _ _ _ _ _ _ _ _ _ hshape hreplies⟩

end RecordMapper
