import RecordMapper.Job
/-!
# Recorded sessions

A session is a sequence of steps on a database over a recorder. Some perform a job, the others queue
responses or look at the log.
-/

namespace RecordMapper

variable {τ : Type} {ρ : Model τ → Type}

inductive Step (τ : Type) (ρ : Model τ → Type) where
  | respond (response : Except Error Response)
  | summary
  | pop
  | clear
  | job (t : Job τ ρ)

/-- A step as it is given from outside, with the dynamic values of records. -/
abbrev Command := Step FieldType fun _ => List Value

namespace Step

def exec (s : Statement) : Step τ ρ := job (.send .execute s)

def query (s : Statement) : Step τ ρ := job (.send .query s)

def scalar (s : Statement) : Step τ ρ := job (.send .scalar s)

def use (model : Model τ) (request : Request (ρ model)) : Step τ ρ := job (.use model request)

def adjust (f : Recorder → Recorder) : Action Recorder Reply := fun r => ⟨.ok .done, [], f r⟩

variable [FieldTypes τ]

def perform (d : Dialect) : Step τ Model.Instance → Action Recorder Reply
  | respond response => adjust fun r => r.respond response
  | summary => fun r =>
    ⟨.ok (.summary r.log.length (r.count .execute) (r.count .query) (r.count .scalar)), [], r⟩
  | pop => fun r =>
    let (oldest, r') := r.pop
    ⟨.ok (.exchange oldest), [], r'⟩
  | clear => adjust Recorder.clear
  | job t => t.perform ⟨d, Recorder.connection⟩

end Step

namespace Command

def load : Command → Except Error (Step FieldType Model.Instance)
  | .respond response => .ok (.respond response)
  | .summary => .ok .summary
  | .pop => .ok .pop
  | .clear => .ok .clear
  | .job (.send purpose s) => .ok (.job (.send purpose s))
  | .job (.use model request) => (request.load model.fields).map (.use model)

end Command

namespace Session

/-- What one command does; records that cannot be loaded leave everything as it is. -/
def run (d : Dialect) (command : Command) : Action Recorder Reply := do
  let step ← Action.ofExcept command.load
  step.perform d

/-- Registers models before a session starts; a model's description never changes. -/
def register (models : List Model) : Outcome (Registry Model × Recorder) Unit :=
  Database.register (fun m s => (m.describe, s)) models (Registry.empty, Recorder.empty)

end Session

end RecordMapper
