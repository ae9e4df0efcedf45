import RecordMapper.Proofs.Database.Operations
import RecordMapper.Proofs.Predicate.Fault
/-!
# Three reads of one filter

The records that meet a filter can all be read, or only the first of them, or one asks whether there are
any. The three ask the same of the connection and differ in the rows of the answer that they look at:
every row, the first row, or none. So they agree wherever all rows can be read, and a row that cannot be
read is reported only by the reads that look at it.
-/

namespace RecordMapper

variable {σ τ : Type}

def Outcome.ending {α : Type} (o : Outcome σ α) : Except Error α × σ := (o.result, o.state)

def Connection.recording (c : Connection σ) : Connection (σ × List Operation) where
  exec op state := ((c.exec op state.1).1, (c.exec op state.1).2, state.2 ++ [op])

namespace Repository

variable {α : Type} (r : Repository σ τ) (filter : Expr) (state : σ)

def recording : Repository (σ × List Operation) τ :=
  ⟨⟨r.database.dialect, r.database.connection.recording⟩, r.model⟩

def selected : Except Error Statement := r.model.selected r.database.dialect (some filter)

def asked : List Operation :=
  match r.selected filter with
  | .error _ => []
  | .ok s => [⟨.query, s⟩]

def reading (take : List Row → Except Error α) : Except Error α × σ :=
  match r.selected filter with
  | .error e => (.error e, state)
  | .ok s =>
    let answer := r.database.connection.exec ⟨.query, s⟩ state
    (answer.1.bind fun response => response.toRows.bind take, answer.2)

theorem ending_of_follows {x : Action σ α} {told : List JournalLine} {take : List Row → Except Error α}
    (h : x.Follows r.database told ((r.selected filter).map fun s => some ⟨.query, s⟩)
      fun response => response.toRows.bind take) :
    (x state).ending = r.reading filter state take := by
  rw [reading]
  cases hs : r.selected filter with
  | error e =>
    rw [hs] at h
    exact congrArg Outcome.ending (h state)
  | ok s =>
    rw [hs] at h
    exact congrArg Outcome.ending (h state)

theorem ending_any :
    (r.any filter state).ending = r.reading filter state fun rows => .ok (!rows.isEmpty) :=
  r.ending_of_follows filter state (r.follows_selecting r.asks_anyOf (some filter))

theorem asked_reading (take : List Row → Except Error α) :
    (r.recording.reading filter (state, []) take).2.2 = r.asked filter := by
  have hselected : r.recording.selected filter = r.selected filter := rfl
  rw [reading, asked, hselected]
  cases r.selected filter with
  | error e => rfl
  | ok s => rfl

theorem reading_eq_ok_iff {take : List Row → Except Error α} {a : α} :
    (r.reading filter state take).1 = .ok a ↔ ∃ s rows, r.selected filter = .ok s ∧
      (r.database.connection.exec ⟨.query, s⟩ state).1 = .ok (.rows rows) ∧ take rows = .ok a := by
  rw [reading]
  cases r.selected filter with
  | error e => simp
  | ok s =>
    cases hanswer : (r.database.connection.exec ⟨.query, s⟩ state).1 with
    | error e => simp [Except.bind, hanswer]
    | ok response => cases response <;> simp [Except.bind, Response.toRows, hanswer]

end Repository

variable [FieldTypes τ]

structure ReadResults (fields : List (ModelField τ)) where
  all : Except Error (List (Record fields))
  first : Except Error (Option (Record fields))
  any : Except Error Bool

namespace ReadResults

variable {fields : List (ModelField τ)}

structure Fail (x : ReadResults fields) (e : Error) : Prop where
  all : x.all = .error e
  first : x.first = .error e
  any : x.any = .error e

/-- What the reads make of the rows of an answer. -/
structure OfRows (x : ReadResults fields) (rows : List Row) : Prop where
  all_ok : ∀ vs, x.all = .ok vs ↔
    List.Forall₂ (fun row v => Record.ofRow fields row = .ok v) rows vs
  all_error : ∀ e, x.all = .error e ↔ ∃ before row after, rows = before ++ row :: after ∧
    (∀ b ∈ before, ∃ v, Record.ofRow fields b = .ok v) ∧ Record.ofRow fields row = .error e
  first_none : x.first = .ok none ↔ rows = []
  first_some : ∀ v, x.first = .ok (some v) ↔ ∃ row rest, rows = row :: rest ∧
    Record.ofRow fields row = .ok v
  first_error : ∀ e, x.first = .error e ↔ ∃ row rest, rows = row :: rest ∧
    Record.ofRow fields row = .error e
  any : x.any = .ok (!rows.isEmpty)

end ReadResults

namespace Repository

variable (r : Repository σ τ) (filter : Expr) (state : σ)

def readResults : ReadResults r.model.fields :=
  ⟨(r.all (some filter) state).result, (r.first filter state).result, (r.any filter state).result⟩

theorem ending_all :
    (r.all (some filter) state).ending = r.reading filter state (loadRows r.model) :=
  r.ending_of_follows filter state (r.follows_selecting r.asks_allOf (some filter))

theorem ending_first :
    (r.first filter state).ending = r.reading filter state (loadFirst r.model) :=
  r.ending_of_follows filter state (r.follows_selecting r.asks_firstOf (some filter))

theorem readResults_eq : r.readResults filter state = ⟨(r.reading filter state (loadRows r.model)).1,
    (r.reading filter state (loadFirst r.model)).1,
    (r.reading filter state fun rows => .ok (!rows.isEmpty)).1⟩ := by
  rw [← ending_all, ← ending_first, ← ending_any]
  rfl

theorem loadRows_eq_ok_iff {m : Model τ} {rows : List Row} {vs : List (Record m.fields)} :
    loadRows m rows = .ok vs ↔
      List.Forall₂ (fun row v => Record.ofRow m.fields row = .ok v) rows vs := by
  induction rows generalizing vs with
  | nil =>
    rw [loadRows, List.forall₂_nil_left_iff, Except.ok.injEq]
    exact eq_comm
  | cons row rest ih =>
    rw [loadRows, List.forall₂_cons_left_iff]
    cases Record.ofRow m.fields row with
    | error e => simp
    | ok v =>
      simp only [Except.map_eq_ok_iff, ih, Except.ok.injEq]
      constructor
      · rintro ⟨vs', hrest, rfl⟩
        exact ⟨v, vs', rfl, hrest, rfl⟩
      · rintro ⟨_, vs', rfl, hrest, rfl⟩
        exact ⟨vs', hrest, rfl⟩

theorem failure?_loadRows {m : Model τ} {rows : List Row} :
    failure? (loadRows m rows) = rows.findSome? fun row => failure? (Record.ofRow m.fields row) := by
  induction rows with
  | nil => rfl
  | cons row rest ih =>
    rw [loadRows, List.findSome?_cons, ← ih]
    cases Record.ofRow m.fields row with
    | error e => rfl
    | ok v => exact failure?_map

theorem loadRows_eq_error_iff {m : Model τ} {rows : List Row} {e : Error} :
    loadRows m rows = .error e ↔ ∃ before row after, rows = before ++ row :: after ∧
      (∀ b ∈ before, ∃ v, Record.ofRow m.fields b = .ok v) ∧
        Record.ofRow m.fields row = .error e := by
  rw [← failure?_eq_some_iff, failure?_loadRows, List.findSome?_eq_some_iff]
  simp only [failure?_eq_some_iff, failure?_eq_none_iff]
  constructor
  · rintro ⟨before, row, after, hsplit, herror, hbefore⟩
    exact ⟨before, row, after, hsplit, hbefore, herror⟩
  · rintro ⟨before, row, after, hsplit, hbefore, herror⟩
    exact ⟨before, row, after, hsplit, herror, hbefore⟩

/-- Where every row can be read, the other two reads see the same records. -/
theorem loadFirst_of_loadRows {m : Model τ} {rows : List Row} {vs : List (Record m.fields)}
    (h : loadRows m rows = .ok vs) :
    loadFirst m rows = .ok vs.head? ∧ (!rows.isEmpty) = !vs.isEmpty := by
  cases loadRows_eq_ok_iff.1 h with
  | nil => exact ⟨rfl, rfl⟩
  | cons hrow _ =>
    rw [loadFirst, hrow]
    exact ⟨rfl, rfl⟩

theorem ofRows (m : Model τ) (rows : List Row) :
    ReadResults.OfRows ⟨loadRows m rows, loadFirst m rows, .ok (!rows.isEmpty)⟩ rows where
  all_ok _ := loadRows_eq_ok_iff
  all_error _ := loadRows_eq_error_iff
  first_none := by
    cases rows with
    | nil => simp [loadFirst]
    | cons row rest => simp [loadFirst, Except.map_eq_ok_iff]
  first_some v := by
    cases rows with
    | nil => simp [loadFirst]
    | cons row rest => simp [loadFirst, Except.map_eq_ok_iff]
  first_error e := by
    cases rows with
    | nil => simp [loadFirst]
    | cons row rest =>
      rw [loadFirst, ← failure?_eq_some_iff, failure?_map, failure?_eq_some_iff]
      simp
  any := rfl

end Repository

/-- The three reads of a filter ask the same, at most one query. If all rows can be read, the first read
comes to the first record and the question is whether there is one. All fail alike if there is no
statement, if the connection fails, and with an invalid result if it does not answer with rows. Of rows
the reads fail with the first one that they look at and cannot read. -/
theorem reads_agree (r : Repository σ τ) (filter : Expr) (state : σ) :
    let x := r.readResults filter state
    ((r.recording.all (some filter) (state, [])).state.2 = r.asked filter ∧
      (r.recording.first filter (state, [])).state.2 = r.asked filter ∧
      (r.recording.any filter (state, [])).state.2 = r.asked filter) ∧
    (∀ vs, x.all = .ok vs → x.first = .ok vs.head? ∧ x.any = .ok (!vs.isEmpty)) ∧
    (∀ e, r.selected filter = .error e → x.Fail e) ∧
    ∀ s, r.selected filter = .ok s →
      match (r.database.connection.exec ⟨.query, s⟩ state).1 with
      | .error e => x.Fail e
      | .ok (.rows rows) => x.OfRows rows
      | .ok response => ∃ e, e.kind = some .invalidResult ∧
          e.message = "invalid result: expected Values, got " ++ response.shape ∧ x.Fail e := by
  intro x
  have hx : x = _ := r.readResults_eq filter state
  refine ⟨⟨?_, ?_, ?_⟩, ?_, ?_, ?_⟩
  -- noting operations is a connection as well, so what was noted is part of how a read ends
  · rw [← r.asked_reading filter state (Repository.loadRows r.model)]
    exact congrArg (fun y => y.2.2) (r.recording.ending_all filter (state, []))
  · rw [← r.asked_reading filter state (Repository.loadFirst r.model)]
    exact congrArg (fun y => y.2.2) (r.recording.ending_first filter (state, []))
  · rw [← r.asked_reading filter state fun rows => .ok (!rows.isEmpty)]
    exact congrArg (fun y => y.2.2) (r.recording.ending_any filter (state, []))
  · intro vs hall
    rw [hx] at hall ⊢
    obtain ⟨s, rows, hs, hanswer, hrows⟩ := (r.reading_eq_ok_iff filter state).1 hall
    obtain ⟨hfirst, hany⟩ := Repository.loadFirst_of_loadRows hrows
    rw [← hany]
    exact ⟨(r.reading_eq_ok_iff filter state).2 ⟨s, rows, hs, hanswer, hfirst⟩,
      (r.reading_eq_ok_iff filter state).2 ⟨s, rows, hs, hanswer, rfl⟩⟩
  · intro e he
    rw [hx]
    simp only [Repository.reading, he]
    exact ⟨rfl, rfl, rfl⟩
  · intro s hs
    rw [hx]
    simp only [Repository.reading, hs]
    cases (r.database.connection.exec ⟨.query, s⟩ state).1 with
    | error e => exact ⟨rfl, rfl, rfl⟩
    | ok response =>
      cases response with
      | count n => exact ⟨(Response.count n).unexpected "Values", rfl, rfl, rfl, rfl, rfl⟩
      | scalar v => exact ⟨(Response.scalar v).unexpected "Values", rfl, rfl, rfl, rfl, rfl⟩
      | rows rows => exact Repository.ofRows r.model rows

/-- The second row holds a text where a number belongs: only the read of all rows looks at it. -/
theorem reads_agree_second_row :
    let model : Model := ⟨"User", "User", none, [⟨"id", none, true, false, .int32⟩]⟩
    let rows : List Row := [Row.ofList [("id", .int64 7)], Row.ofList [("id", .string "x")]]
    let answering : Connection Nat := ⟨fun _ n => (.ok (.rows rows), n + 1)⟩
    let r : Repository Nat := ⟨⟨.standard, answering⟩, model⟩
    let x := r.readResults (.isNull (.field "id")) 0
    x.all = .error ⟨[.adhoc "loading `id`"], .typeConversion (.string "x") "i32"⟩ ∧
      x.first = .ok (some ((7 : Int32), ())) ∧ x.any = .ok true ∧
      (r.recording.any (.isNull (.field "id")) (0, [])).state.2 =
        [⟨.query, .ofText "SELECT * FROM User WHERE id IS NULL"⟩] := by
  intro model rows answering r x
  obtain ⟨⟨-, -, hasked⟩, -, -, hanswered⟩ := reads_agree r (.isNull (.field "id")) 0
  have hrows : x.OfRows rows := hanswered _ rfl
  refine ⟨?_, ?_, hrows.any, hasked⟩
  · refine (hrows.all_error _).2 ⟨[Row.ofList [("id", .int64 7)]], _, [], rfl, ?_, rfl⟩
    intro b hb
    rw [List.mem_singleton.1 hb]
    exact ⟨_, rfl⟩
  · exact (hrows.first_some _).2 ⟨_, _, rfl, rfl⟩

end RecordMapper
