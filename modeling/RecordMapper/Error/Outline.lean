import RecordMapper.Error
/-!
# Outlines of errors

The long form of an error names the kind of each of its causes and the parts that it was made from. An
error that is handed to a driver keeps its long form there.
-/

namespace RecordMapper

mutual

def Value.outline : Value → Outline
  | .null => .leaf "Null"
  | .bool b => .tagged "Bool" (.leaf (if b then "true" else "false"))
  | .int32 n => .tagged "I32" (.leaf (Decimal.intText n.toInt))
  | .int64 n => .tagged "I64" (.leaf (Decimal.intText n.toInt))
  | .float x => .tagged "F64" (.leaf (x.write Binary64.diagnosticFormat))
  | .string s => .tagged "String" (.text s)
  | .char c => .tagged "Char" (.leaf (Escaped.shownChar c))
  | .date d => .tagged "Date" (.leaf d.text)
  | .dateTime t => .tagged "DateTime" (.leaf (String.ofList (t.chars 'T')))
  | .bytes data =>
    .tagged "Bytes" (.sequence (data.map fun b => .leaf (Decimal.natText b.toNat)))
  | .list items => .tagged "List" (.sequence (Value.outlines items))

def Value.outlines : List Value → List Outline
  | [] => []
  | v :: rest => v.outline :: Value.outlines rest

end

def Cause.outline : Cause → Outline
  | .adhoc m => .tagged "Adhoc" (.struct "AdhocError" [("message", .text m)])
  | .foreign r => .tagged "Anyhow" r.outline
  | .driver r =>
    .tagged "DriverOperationFailed" (.struct "DriverOperationFailed" [("inner", r.outline)])
  | .invalidResult m => .tagged "InvalidResult" (.struct "InvalidResult" [("message", .text m)])
  | .invalidSchema m => .tagged "InvalidSchema" (.struct "InvalidSchema" [("message", .text m)])
  | .invalidStatement m =>
    .tagged "InvalidStatement" (.struct "InvalidStatement" [("message", .text m)])
  | .noKeyDefined e => .tagged "NoKeyDefined" (.struct "NoKeyDefined" [("entity", .text e)])
  | .typeConversion v t =>
    .tagged "TypeConversion"
      (.struct "TypeConversionError" [("value", v.outline), ("to_type", .text t)])
  | .unknownField e f =>
    .tagged "UnknownField" (.struct "UnknownField" [("entity", .text e), ("field", .text f)])
  | .unsupportedExpression m =>
    .tagged "UnsupportedExpressionKind"
      (.struct "UnsupportedExpressionKind" [("message", .text m)])
  | .unsupportedCall m =>
    .tagged "UnsupportedMethodCall" (.struct "UnsupportedMethodCall" [("method", .text m)])
  | .unsupportedOperator o h =>
    .tagged "UnsupportedOperator"
      (.struct "UnsupportedOperator" [("operator", .text o), ("hint", .text h)])

namespace Error

def outlineOf (cause : Cause) (below : Option Outline) : Outline :=
  .struct "Error" [("kind", cause.outline), ("cause", .option below)]

def outline (e : Error) : Outline :=
  e.contexts.foldr (fun context below => outlineOf context (some below)) (outlineOf e.root none)

def report (e : Error) : Report := ⟨e.message, e.sources, e.outline⟩

/-- `e` as a driver reports it. -/
def asDriverFailure (e : Error) : Error := ofCause (.driver e.report)

end Error

end RecordMapper
