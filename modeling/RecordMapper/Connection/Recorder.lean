import RecordMapper.Connection.Basic
/-!
# A recording connection

A recorder answers each operation with the oldest response that was queued for it, whatever the
operation asks for, and keeps a log of operations and responses. With nothing queued it answers like
an empty table that accepts every write: one affected row for each statement of the text, no rows, and
null.
-/

namespace RecordMapper

structure Exchange where
  operation : Operation
  response : Except Error Response

structure Recorder where
  /-- Responses to hand out, the oldest first. -/
  queue : List (Except Error Response)
  /-- What was answered, the oldest first. -/
  log : List Exchange

namespace Recorder

def pieces : List Char → Nat
  | [] => 1
  | ';' :: '\n' :: rest => pieces rest + 1
  | _ :: rest => pieces rest

def defaultResponse (op : Operation) : Response :=
  match op.purpose with
  | .execute => .count (pieces op.statement.text.toList)
  | .query => .rows []
  | .scalar => .scalar .null

def empty : Recorder := ⟨[], []⟩

def respond (r : Recorder) (response : Except Error Response) : Recorder :=
  { r with queue := r.queue ++ [response] }

def next (op : Operation) (r : Recorder) : Except Error Response :=
  r.queue.headD (.ok (defaultResponse op))

def exec (op : Operation) (r : Recorder) : Except Error Response × Recorder :=
  (r.next op, ⟨r.queue.tail, r.log ++ [⟨op, r.next op⟩]⟩)

def connection : Connection Recorder := ⟨exec⟩

def pop (r : Recorder) : Option Exchange × Recorder :=
  match r.log with
  | [] => (none, r)
  | first :: rest => (some first, { r with log := rest })

def clear (r : Recorder) : Recorder := { r with log := [] }

def count (r : Recorder) (purpose : Purpose) : Nat :=
  r.log.countP fun e => e.operation.purpose == purpose

end Recorder

end RecordMapper
