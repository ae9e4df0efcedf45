import RecordMapper.Text.Outline
import RecordMapper.Value
/-!
# Errors

An error is a root cause under any number of contexts. Its text names the contexts from the last
added to the first and then the cause; what kind of error it is, and what lies behind it, depend on
the cause alone.
-/

namespace RecordMapper

/-- Text that came from outside: what a failure says about itself, what the failures behind it say, in
order, and the parts that it was made from. -/
structure Report where
  text : String
  behind : List String
  outline : Outline

namespace Report

def contextOutline : String → List String → Outline
  | root, [] => .text root
  | context, source :: rest =>
    .struct "Error" [("context", .quoted context), ("source", contextOutline source rest)]

def ofMessages (text : String) (behind : List String) : Report :=
  ⟨text, behind, contextOutline text behind⟩

def messages (r : Report) : List String := r.text :: r.behind

def joined (r : Report) : String := String.intercalate ": " r.messages

end Report

inductive Cause where
  | adhoc (message : String)
  /-- An error of another library, passed on as it is. -/
  | foreign (report : Report)
  | driver (report : Report)
  | invalidResult (message : String)
  | invalidSchema (message : String)
  | invalidStatement (message : String)
  | noKeyDefined (entity : String)
  | typeConversion (value : Value) (target : String)
  | unknownField (entity field : String)
  | unsupportedExpression (message : String)
  | unsupportedCall (method : String)
  | unsupportedOperator (operator hint : String)

inductive Kind where
  | driverOperationFailed
  | invalidResult
  | invalidSchema
  | invalidStatement
  | noKeyDefined
  | typeConversion
  | unknownField
  | unsupportedExpression
  | unsupportedCall
  | unsupportedOperator
deriving DecidableEq

namespace Cause

/-- What a cause says. A failure of the driver tells its whole report, one of another library only
its outermost message. -/
def message : Cause → String
  | adhoc message => message
  | foreign report => report.text
  | driver report => report.joined
  | invalidResult message => "invalid result: " ++ message
  | invalidSchema message => "invalid schema: " ++ message
  | invalidStatement message => "invalid statement: " ++ message
  | noKeyDefined entity =>
    "no key defined for `" ++ entity ++ "`; refusing to build an unrestricted WHERE clause"
  | typeConversion value target => "cannot convert " ++ value.kindName ++ " to " ++ target
  | unknownField entity field => "unknown field `" ++ field ++ "` on `" ++ entity ++ "`"
  | unsupportedExpression message => "unsupported expression: " ++ message
  | unsupportedCall method =>
    "unsupported method call `" ++ method ++ "`; expected one of Contains, StartsWith, EndsWith"
  | unsupportedOperator operator hint => "unsupported operator `" ++ operator ++ "`: " ++ hint

def kind : Cause → Option Kind
  | adhoc _ => none
  | foreign _ => none
  | driver _ => some .driverOperationFailed
  | invalidResult _ => some .invalidResult
  | invalidSchema _ => some .invalidSchema
  | invalidStatement _ => some .invalidStatement
  | noKeyDefined _ => some .noKeyDefined
  | typeConversion _ _ => some .typeConversion
  | unknownField _ _ => some .unknownField
  | unsupportedExpression _ => some .unsupportedExpression
  | unsupportedCall _ => some .unsupportedCall
  | unsupportedOperator _ _ => some .unsupportedOperator

/-- What lies behind a cause: for a driver's failure its own text and then each message of its
report, for a failure of another library every message. -/
def sources : Cause → List String
  | driver report => report.joined :: report.messages
  | foreign report => report.messages
  | _ => []

end Cause

/-- A root cause and the contexts added to it, the last one first. -/
structure Error where
  contexts : List Cause
  root : Cause

namespace Error

def ofCause (cause : Cause) : Error := ⟨[], cause⟩

instance : Coe Cause Error := ⟨ofCause⟩

def outermost (e : Error) : Cause := e.contexts.headD e.root

def message (e : Error) : String :=
  String.intercalate ": " ((e.contexts ++ [e.root]).map Cause.message)

def kind (e : Error) : Option Kind := e.root.kind

def sources (e : Error) : List String := e.root.sources

def under (e : Error) (context : Cause) : Error := ⟨context :: e.contexts, e.root⟩

def context (e : Error) (message : String) : Error := e.under (.adhoc message)

inductive Consequent where
  | message (text : String)
  /-- An error that nobody else holds. -/
  | owned (error : Error)
  /-- An error that is still in use elsewhere. -/
  | shared (error : Error)

inductive Misuse where
  | consequentHasCause
deriving DecidableEq

def Misuse.text : Misuse → String
  | consequentHasCause => "consequent error must not already have a cause"

/-- `e` under another error. An owned error must not stand on a cause of its own; a shared one lends
only the text of its outermost part. -/
def addContext (e : Error) : Consequent → Except Misuse Error
  | .message text => .ok (e.context text)
  | .owned consequent =>
    if consequent.contexts.isEmpty then .ok (e.under consequent.root)
    else .error .consequentHasCause
  | .shared consequent => .ok (e.context consequent.outermost.message)

def integerOutOfRange : Error :=
  ofCause (.foreign ⟨"number too large to fit in target type", [],
    .tagged "TryFromIntError" (.leaf "PosOverflow")⟩)

theorem message_ofCause (c : Cause) : (ofCause c).message = c.message := by
  simp [ofCause, message]

theorem message_under (e : Error) (c : Cause) :
    (e.under c).message = c.message ++ ": " ++ e.message := by
  cases h : e.contexts <;> simp [under, message, h, String.append_assoc]

end Error

end RecordMapper
