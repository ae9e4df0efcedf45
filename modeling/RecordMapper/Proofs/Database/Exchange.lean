import RecordMapper.Database
/-!
# One exchange with the connection

An action on a database leaves the connection alone or asks it once. What it comes to, what it tells and
where it leaves the connection follow from the one answer. Looking at a result before or after that changes
nothing of it.
-/

namespace RecordMapper

def Purpose.told : Purpose → Except Error Response → List JournalLine
  | .execute, .ok (.count rows) => [.affected rows]
  | .query, .ok (.rows rows) => [.returned rows.length]
  | _, _ => []

/-- What is told of an operation and its answer, which is the same for other values of parameters. -/
def Operation.told (op : Operation) (answer : Except Error Response) : List JournalLine :=
  .sent op.purpose.name op.statement.text op.statement.names :: op.purpose.told answer

namespace Action

variable {σ α β : Type} {x : Action σ α} {f : α → Action σ β} {db : Database σ} {op : Operation}
  {told more : List JournalLine} {read : Response → Except Error α}

def Still (x : Action σ α) (told : List JournalLine) (result : Except Error α) : Prop :=
  ∀ state, x state = ⟨result, told, state⟩

/-- The connection is asked `op`, and the result is read off the answer; a failure is passed on. -/
def Asks (x : Action σ α) (db : Database σ) (told : List JournalLine) (op : Operation)
    (read : Response → Except Error α) : Prop :=
  ∀ state, x state = ⟨(db.connection.exec op state).1.bind read,
    told ++ op.told (db.connection.exec op state).1, (db.connection.exec op state).2⟩

theorem still_ofExcept (result : Except Error α) : (ofExcept result : Action σ α).Still [] result :=
  fun _ => rfl

theorem still_tell (line : JournalLine) : (tell line : Action σ Unit).Still [line] (.ok ()) :=
  fun _ => rfl

theorem bind_apply (x : Action σ α) (f : α → Action σ β) (state : σ) :
    (x >>= f) state = Action.bind x f state := rfl

theorem Still.bind_error {e : Error} (hx : x.Still told (.error e)) :
    (x >>= f).Still told (.error e) := by
  intro state
  rw [bind_apply, Action.bind, hx state]

theorem Still.bind_still {a : α} {result : Except Error β} (hx : x.Still told (.ok a))
    (hf : (f a).Still more result) : (x >>= f).Still (told ++ more) result := by
  intro state
  rw [bind_apply, Action.bind, hx state]
  dsimp only
  rw [hf state]

theorem Still.map {result : Except Error α} (hx : x.Still told result) (g : α → β) :
    (x >>= fun a => pure (g a)).Still told (result.map g) := by
  cases result with
  | error e => exact hx.bind_error
  | ok a =>
    have hpure : (pure (g a) : Action σ β).Still [] (.ok (g a)) := still_ofExcept _
    have hmapped := hx.bind_still (f := fun a => pure (g a)) hpure
    rwa [List.append_nil] at hmapped

theorem Still.bind_asks {a : α} {read : Response → Except Error β} (hx : x.Still told (.ok a))
    (hf : (f a).Asks db more op read) : (x >>= f).Asks db (told ++ more) op read := by
  intro state
  rw [bind_apply, Action.bind, hx state]
  dsimp only
  rw [hf state, List.append_assoc]

theorem Asks.bind {next : α → Except Error β} (hx : x.Asks db told op read)
    (hf : ∀ a, (f a).Still [] (next a)) :
    (x >>= f).Asks db told op fun response => (read response).bind next := by
  intro state
  rw [bind_apply, Action.bind, hx state]
  rcases db.connection.exec op state with ⟨e | response, state'⟩
  · rfl
  · dsimp only [Except.bind]
    cases read response with
    | error e => rfl
    | ok a =>
      dsimp only
      rw [hf a state', List.append_nil]

/-- An action that has come to `built` before it turns to the connection: with a failure, or with nothing to
ask, it leaves the connection alone. -/
def Follows (x : Action σ α) (db : Database σ) (told : List JournalLine)
    (built : Except Error (Option Operation)) (read : Response → Except Error α) : Prop :=
  match built with
  | .error e => x.Still [] (.error e)
  | .ok none => ∃ a, x.Still [] (.ok a)
  | .ok (some op) => x.Asks db told op read

theorem Asks.follows (hx : x.Asks db told op read) : x.Follows db told (.ok (some op)) read := hx

theorem Follows.map {built : Except Error (Option Operation)} (hx : x.Follows db told built read)
    (g : α → β) : (x >>= fun a => pure (g a)).Follows db told built fun response =>
      (read response).bind fun a => .ok (g a) := by
  rcases built with e | _ | op
  · exact Still.bind_error hx
  · obtain ⟨a, hx⟩ := hx
    exact ⟨g a, hx.bind_still (still_ofExcept _)⟩
  · exact Asks.bind hx fun a => still_ofExcept _

theorem follows_ofExcept_bind {built : Except Error α} {read : Response → Except Error β}
    {next : α → Option Operation} (hf : ∀ a, (f a).Follows db told (.ok (next a)) read) :
    (ofExcept built >>= f).Follows db told (built.map next) read := by
  cases built with
  | error e => exact (still_ofExcept _).bind_error
  | ok a => exact hf a

/-- What is told goes before the one operation; a failure comes before anything is told. -/
theorem Still.follows {built : Except Error α} {next : α → Operation}
    {read : Response → Except Error β} (hx : x.Still told built)
    (hfailure : ∀ e, built = .error e → told = []) (hf : ∀ a, (f a).Asks db [] (next a) read) :
    (x >>= f).Follows db told (built.map fun a => some (next a)) read := by
  cases built with
  | error e =>
    rw [hfailure e rfl] at hx
    exact hx.bind_error
  | ok a =>
    have hasks := hx.bind_asks (hf a)
    rwa [List.append_nil] at hasks

end Action

namespace Database

variable {σ α : Type} (db : Database σ) (s : Statement)

theorem asks_send_bind {purpose : Purpose} {read : Response → Except Error α}
    {next : Response → Action σ α}
    (h : ∀ response, (next response).Still (purpose.told (.ok response)) (read response)) :
    (db.send purpose s >>= next).Asks db [] ⟨purpose, s⟩ read := by
  intro state
  have hsend : db.send purpose s state = ⟨(db.connection.exec ⟨purpose, s⟩ state).1,
      [.sent purpose.name s.text s.names], (db.connection.exec ⟨purpose, s⟩ state).2⟩ := rfl
  rw [Action.bind_apply, Action.bind, hsend]
  rcases db.connection.exec ⟨purpose, s⟩ state with ⟨e | response, state'⟩
  · cases purpose <;> rfl
  · dsimp only
    rw [h response state']
    rfl

theorem asks_exec : (db.exec s).Asks db [] ⟨.execute, s⟩ Response.toCount := by
  refine db.asks_send_bind s fun response state => ?_
  cases response <;> rfl

theorem asks_query : (db.query s).Asks db [] ⟨.query, s⟩ Response.toRows := by
  refine db.asks_send_bind s fun response state => ?_
  cases response <;> rfl

theorem asks_scalar : (db.scalar s).Asks db [] ⟨.scalar, s⟩ Response.toScalar := by
  refine db.asks_send_bind s fun response state => ?_
  cases response <;> rfl

end Database

end RecordMapper
