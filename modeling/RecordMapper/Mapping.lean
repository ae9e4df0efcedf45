import RecordMapper.Error
/-!
# Mappings

An entity mapping says how a record type is stored: its table, and for each field the column, whether
the field is part of the key, and whether the store assigns it. A declaration is checked once: sources
and columns must be pairwise distinct and only keys may be assigned by the store.
-/

namespace RecordMapper

structure FieldMapping where
  /-- The name of the field in the record. -/
  source : String
  /-- The column's name if it is not the field's, with any quoting it needs. -/
  override : Option String
  isKey : Bool
  /-- Marked as assigned by the store; this takes effect only on keys. -/
  marksAuto : Bool
deriving DecidableEq

namespace FieldMapping

def column (f : FieldMapping) : String := f.override.getD f.source

def isAutoIncrement (f : FieldMapping) : Bool := f.isKey && f.marksAuto

end FieldMapping

/-- How a record type is stored, its fields in the order of declaration. -/
structure EntityMapping where
  name : String
  tableOverride : Option String
  fields : List FieldMapping
deriving DecidableEq

inductive SchemaFault where
  | duplicateField (source entity : String)
  | columnTaken (source entity column : String)
  | autoWithoutKey (source entity : String)
deriving DecidableEq

def SchemaFault.message : SchemaFault → String
  | duplicateField source entity => "duplicate field `" ++ source ++ "` on `" ++ entity ++ "`"
  | columnTaken source entity column =>
    "field `" ++ source ++ "` on `" ++ entity ++ "` maps to column `" ++ column ++
      "`, which is already mapped"
  | autoWithoutKey source entity =>
    "field `" ++ source ++ "` on `" ++ entity ++ "` is auto-increment but not a key"

namespace EntityMapping

def table (m : EntityMapping) : String := m.tableOverride.getD m.name

/-- The field with the given source name; the first one, should there be more. -/
def field? (m : EntityMapping) (source : String) : Option FieldMapping :=
  m.fields.find? fun f => f.source == source

def fieldIndex? (m : EntityMapping) (source : String) : Option Nat :=
  m.fields.findIdx? fun f => f.source == source

def keys (m : EntityMapping) : List FieldMapping := m.fields.filter FieldMapping.isKey

def hasKeys (m : EntityMapping) : Bool := !m.keys.isEmpty

def faultAfter (entity : String) (earlier : List FieldMapping) (f : FieldMapping) :
    Option SchemaFault :=
  if earlier.any fun g => g.source == f.source then some (.duplicateField f.source entity)
  else if earlier.any fun g => g.column == f.column then
    some (.columnTaken f.source entity f.column)
  else if f.marksAuto && !f.isKey then some (.autoWithoutKey f.source entity)
  else none

/-- The first fault among `fields`, which stand behind the faultless fields `earlier`. -/
def firstFault (entity : String) (earlier : List FieldMapping) :
    List FieldMapping → Option SchemaFault
  | [] => none
  | f :: rest => (faultAfter entity earlier f).or (firstFault entity (earlier ++ [f]) rest)

def build (declaration : EntityMapping) : Except Error EntityMapping :=
  match firstFault declaration.name [] declaration.fields with
  | some fault => .error (Error.ofCause (.invalidSchema fault.message))
  | none => .ok declaration

end EntityMapping

end RecordMapper
