import RecordMapper.Proofs.Database.Operations
import RecordMapper.Proofs.Statement.Batch
import RecordMapper.Session
/-!
# What passes through a recorder

A run is a sequence of steps by two hands: one uses repositories and the database, the other queues
responses and takes exchanges off the log. An operation with a statement makes one exchange, and one
without leaves no trace. Of the responses that were ever queued, those handed out and those still in
the queue are all, in order.
-/

namespace RecordMapper

variable {τ : Type} [FieldTypes τ] {d : Dialect}

def Job.SendsNothing : Job τ Model.Instance → Prop
  | use _ .mapping | use _ .shown | use _ (.writeMany _ []) => True
  | _ => False

namespace Step

def queued : Step τ Model.Instance → List (Except Error Response)
  | respond response => [response]
  | summary | pop | clear | job _ => []

def operation? (d : Dialect) : Step τ Model.Instance → Option Operation
  | respond _ | summary | pop | clear => none
  | job t => t.operation? d

end Step

structure Turn (τ : Type) [FieldTypes τ] where
  before : Recorder
  step : Step τ Model.Instance
  outcome : Outcome Recorder Reply

namespace Turn

def answer (t : Turn τ) (op : Operation) : Except Error Response :=
  t.before.queue.headD (.ok (Recorder.defaultResponse op))

/-- One exchange: the oldest response is used up and logged, and a failure is returned as it is. -/
structure Exchanges (t : Turn τ) (op : Operation) : Prop where
  state : t.outcome.state = ⟨t.before.queue.tail, t.before.log ++ [⟨op, t.answer op⟩]⟩
  failure : ∀ e, t.answer op = .error e → t.outcome.result = .error e

/-- What each kind of step does to the queue and the log. -/
def Conforms (d : Dialect) (t : Turn τ) : Prop :=
  match t.step with
  | .respond response => t.outcome.state = ⟨t.before.queue ++ [response], t.before.log⟩
  | .summary => t.outcome.state = t.before
  | .pop =>
    t.outcome.result = .ok (.exchange t.before.log.head?) ∧
      t.outcome.state = ⟨t.before.queue, t.before.log.tail⟩
  | .clear => t.outcome.state = ⟨t.before.queue, []⟩
  | .job asked =>
    match asked.operation d with
    | .ok (some op) => t.Exchanges op
    | .ok none => asked.SendsNothing ∧ t.outcome.state = t.before
    | .error e => t.outcome.result = .error e ∧ t.outcome.state = t.before

def taken (d : Dialect) (t : Turn τ) : List (Except Error Response) :=
  match t.step.operation? d with
  | some _ => t.before.queue.head?.toList
  | none => []

def exchanged (d : Dialect) (t : Turn τ) : List Exchange :=
  match t.step.operation? d with
  | some op => [⟨op, t.answer op⟩]
  | none => []

end Turn

def Step.turn (d : Dialect) (x : Step τ Model.Instance) (r : Recorder) : Turn τ :=
  ⟨r, x, x.perform d r⟩

def turns (d : Dialect) : List (Step τ Model.Instance) → Recorder → List (Turn τ)
  | [], _ => []
  | x :: rest, r => x.turn d r :: turns d rest (x.turn d r).outcome.state

def recorderAfter (d : Dialect) : List (Step τ Model.Instance) → Recorder → Recorder
  | [], r => r
  | x :: rest, r => recorderAfter d rest (x.turn d r).outcome.state

theorem map_some_ne_none {α β : Type} {x : Except Error α} {f : α → β} :
    (x.map fun a => some (f a)) ≠ .ok none := by
  intro h
  cases x with
  | error e => cases h
  | ok a => cases h

theorem Job.sendsNothing_of_operation {t : Job τ Model.Instance} (h : t.operation d = .ok none) :
    t.SendsNothing := by
  obtain ⟨purpose, s⟩ | ⟨model, request⟩ := t
  · cases h
  cases request with
  | mapping => trivial
  | shown => trivial
  | any filter => exact map_some_ne_none h
  | first filter => exact map_some_ne_none h
  | all filter => exact map_some_ne_none h
  | anyOf s => cases h
  | firstOf s => cases h
  | allOf s => cases h
  | valueOf s column => cases h
  | write verb record => exact map_some_ne_none h
  | writeMany verb records =>
    obtain ⟨built, hbuilt, hnone⟩ := Except.map_eq_ok_iff.1 h
    obtain rfl := Option.map_eq_none_iff.1 hnone
    obtain ⟨m, -, hbatch⟩ := Model.writtenMany_eq_ok_iff.1 hbuilt
    obtain rfl := List.map_eq_nil_iff.1 (Dialect.batch_eq_ok_none_iff.1 hbatch)
    trivial
  | deleteWhere filter => exact map_some_ne_none h
  | exec s => cases h

theorem Action.Asks.exchanges {t : Job τ Model.Instance} {r : Recorder} {told : List JournalLine}
    {op : Operation} {read : Response → Except Error Reply}
    (h : (t.perform ⟨d, Recorder.connection⟩).Asks ⟨d, Recorder.connection⟩ told op read) :
    ((Step.job t).turn d r).Exchanges op := by
  have houtcome := h r
  constructor
  · exact congrArg Outcome.state houtcome
  · intro e he
    have hresult : ((Step.job t).turn d r).outcome.result =
        (((Step.job t).turn d r).answer op).bind read := congrArg Outcome.result houtcome
    rw [hresult, he]
    rfl

theorem conforms_turn (d : Dialect) (x : Step τ Model.Instance) (r : Recorder) :
    (x.turn d r).Conforms d := by
  cases x with
  | respond response => rfl
  | summary => rfl
  | pop =>
    obtain ⟨queue, log⟩ := r
    cases log with
    | nil => exact ⟨rfl, rfl⟩
    | cons first rest => exact ⟨rfl, rfl⟩
  | clear => rfl
  | job t =>
    obtain ⟨read, h⟩ := t.perform_follows ⟨d, Recorder.connection⟩
    simp only [Turn.Conforms, Step.turn]
    dsimp only at h
    cases hop : t.operation d with
    | error e =>
      rw [hop] at h
      exact ⟨congrArg Outcome.result (h r), congrArg Outcome.state (h r)⟩
    | ok op =>
      rw [hop] at h
      cases op with
      | none =>
        obtain ⟨reply, h⟩ := h
        exact ⟨t.sendsNothing_of_operation hop, congrArg Outcome.state (h r)⟩
      | some op => exact Action.Asks.exchanges h

namespace Turn

variable {t : Turn τ}

theorem Conforms.exchanges {op : Operation} (h : t.Conforms d)
    (hop : t.step.operation? d = some op) : t.Exchanges op ∧ t.step.queued = [] := by
  obtain ⟨before, step, outcome⟩ := t
  cases step with
  | respond response => cases hop
  | summary => cases hop
  | pop => cases hop
  | clear => cases hop
  | job t =>
    simp only [Conforms, Step.operation?, Job.operation?] at h hop
    cases hs : t.operation d with
    | error e =>
      rw [hs] at hop
      cases hop
    | ok asked =>
      rw [hs] at h hop
      obtain rfl := hop
      exact ⟨h, rfl⟩

theorem Conforms.idle (h : t.Conforms d) (hop : t.step.operation? d = none) :
    t.outcome.state.queue = t.before.queue ++ t.step.queued ∧
      t.outcome.state.log <:+ t.before.log := by
  obtain ⟨before, step, outcome⟩ := t
  have unchanged (hstate : outcome.state = before) :
      outcome.state.queue = before.queue ++ [] ∧ outcome.state.log <:+ before.log := by
    rw [hstate]
    exact ⟨(List.append_nil _).symm, List.suffix_rfl⟩
  cases step with
  | respond response =>
    have hstate : outcome.state = ⟨before.queue ++ [response], before.log⟩ := h
    rw [hstate]
    exact ⟨rfl, List.suffix_rfl⟩
  | summary => exact unchanged h
  | pop =>
    have hstate : outcome.state = ⟨before.queue, before.log.tail⟩ := h.2
    rw [hstate]
    exact ⟨(List.append_nil _).symm, List.tail_suffix _⟩
  | clear =>
    have hstate : outcome.state = ⟨before.queue, []⟩ := h
    rw [hstate]
    exact ⟨(List.append_nil _).symm, List.nil_suffix⟩
  | job t =>
    simp only [Conforms, Step.operation?, Job.operation?] at h hop
    cases hs : t.operation d with
    | error e =>
      rw [hs] at h
      exact unchanged h.2
    | ok asked =>
      rw [hs] at h hop
      obtain rfl := hop
      exact unchanged h.2

/-- What was queued before a turn, or by it, is used up in it or still queued, in the same order. -/
theorem Conforms.taken_append_queue (h : t.Conforms d) :
    t.taken d ++ t.outcome.state.queue = t.before.queue ++ t.step.queued := by
  unfold taken
  cases hop : t.step.operation? d with
  | none => exact (h.idle hop).1
  | some op =>
    obtain ⟨hexchange, hqueued⟩ := h.exchanges hop
    rw [hexchange.state, hqueued, List.append_nil]
    cases t.before.queue with
    | nil => rfl
    | cons oldest rest => rfl

theorem Conforms.log_suffix (h : t.Conforms d) :
    t.outcome.state.log <:+ t.before.log ++ t.exchanged d := by
  unfold exchanged
  cases hop : t.step.operation? d with
  | none =>
    dsimp only
    rw [List.append_nil]
    exact (h.idle hop).2
  | some op =>
    have hlog : t.outcome.state.log = t.before.log ++ [⟨op, t.answer op⟩] :=
      congrArg Recorder.log (h.exchanges hop).1.state
    exact hlog ▸ List.suffix_rfl

end Turn

theorem taken_append_queue_recorderAfter (d : Dialect) (steps : List (Step τ Model.Instance))
    (r : Recorder) :
    (turns d steps r).flatMap (Turn.taken d) ++ (recorderAfter d steps r).queue =
      r.queue ++ steps.flatMap Step.queued := by
  induction steps generalizing r with
  | nil => exact (List.append_nil _).symm
  | cons x rest ih =>
    have hturn := (conforms_turn d x r).taken_append_queue
    rw [turns, recorderAfter, List.flatMap_cons, List.flatMap_cons, List.append_assoc, ih,
      ← List.append_assoc, hturn, List.append_assoc]
    rfl

theorem log_recorderAfter_suffix (d : Dialect) (steps : List (Step τ Model.Instance)) (r : Recorder) :
    (recorderAfter d steps r).log <:+ r.log ++ (turns d steps r).flatMap (Turn.exchanged d) := by
  induction steps generalizing r with
  | nil =>
    rw [turns, List.flatMap_nil, List.append_nil]
    exact List.suffix_rfl
  | cons x rest ih =>
    have hturn := (conforms_turn d x r).log_suffix
    rw [turns, recorderAfter, List.flatMap_cons, ← List.append_assoc]
    exact (ih _).trans (List.suffix_append_self_iff.2 hturn)

theorem conforms_of_mem_turns {d : Dialect} {steps : List (Step τ Model.Instance)} {r : Recorder}
    {t : Turn τ} (h : t ∈ turns d steps r) : t.Conforms d := by
  induction steps generalizing r with
  | nil => cases h
  | cons x rest ih =>
    rcases List.mem_cons.1 h with rfl | h
    · exact conforms_turn d x r
    · exact ih h

/-- In every run each step does what its kind says: an operation with a statement makes one exchange with
the oldest queued response, any other one leaves the recorder as it was. All that was queued is handed
out or still queued, once and in order, and the log holds the latest of the exchanges. -/
theorem run_conserves_responses (d : Dialect) (steps : List (Step τ Model.Instance)) (r : Recorder) :
    (∀ t ∈ turns d steps r, t.Conforms d) ∧
    (turns d steps r).flatMap (Turn.taken d) ++ (recorderAfter d steps r).queue =
      r.queue ++ steps.flatMap Step.queued ∧
    (recorderAfter d steps r).log <:+ r.log ++ (turns d steps r).flatMap (Turn.exchanged d) := by
  refine ⟨?_, taken_append_queue_recorderAfter d steps r, log_recorderAfter_suffix d steps r⟩
  intro t ht
  exact conforms_of_mem_turns ht

/-- A mapping that fails, an update of nothing and an empty batch, before a read that is answered with a
count, a statement that fails and an insertion with nothing queued. -/
theorem run_conserves_responses_refusals :
    let user : Model := ⟨"User", "User", none,
      [⟨"id", none, true, false, .int32⟩, ⟨"name", none, false, false, .option .string⟩]⟩
    let clash : Model := ⟨"Clash", "Clash", none,
      [⟨"first", some "shared", true, false, .int32⟩, ⟨"second", some "shared", false, false, .int32⟩]⟩
    let lost : Except Error Response := .error (Error.ofCause (.driver ⟨"lost", [], .text "lost"⟩))
    let unnamed : Record user.fields := ((1 : Int32), none, ())
    let named : Record user.fields := ((2 : Int32), some "ada", ())
    let steps : List (Step FieldType Model.Instance) := [.respond (.ok (.count 3)),
      .use clash (.all none), .use user (.write .update unnamed), .use user (.writeMany .delete []),
      .use user (.all none), .respond lost, .exec ⟨"VACUUM", []⟩, .pop,
      .use user (.write .insert named)]
    let after := recorderAfter .standard steps Recorder.empty
    (∀ t ∈ turns .standard steps Recorder.empty, t.Conforms .standard) ∧ after.queue = [] ∧
      (turns .standard steps Recorder.empty).flatMap (Turn.taken .standard) = [.ok (.count 3), lost] ∧
      after.log.map (fun e => e.operation.statement.text) =
        ["VACUUM", "INSERT User (id, name) VALUES (@id, @name)"] := by
  intro user clash lost unnamed named steps after
  obtain ⟨hall, hqueue, -⟩ := run_conserves_responses .standard steps Recorder.empty
  have hempty : after.queue = [] := rfl
  rw [hempty, List.append_nil] at hqueue
  exact ⟨hall, hempty, hqueue, rfl⟩

end RecordMapper
