import RecordMapper.Declaration.Struct
/-!
# Markers of declarations

Attributes mark the table of a record type and, on its fields, the key, the columns and what the store
assigns. Every misplaced, repeated or malformed marker is reported: first those of the structure, then
those of each field in order. Attributes of other names are none of our business.
-/

namespace RecordMapper.Declaration

inductive Complaint where
  | fieldsWithoutNames
  | parameters
  | repeatedTable
  | malformedTable
  | fieldMarkerOnModel
  | repeatedKey
  | repeatedAuto
  | repeatedColumn
  | unexpectedArguments
  | columnWithoutArguments
  | columnWithValue
  | columnWithNothing
  | columnNotText
  | columnWithMore
  | emptyColumn
  | tableOnField
  | autoWithoutKey
deriving DecidableEq

def Complaint.message : Complaint → String
  | fieldsWithoutNames => "model fields must be named"
  | parameters => "model parameters are not supported"
  | repeatedTable => "duplicate `table` attribute"
  | malformedTable => "expected `table = \"table_name\"`"
  | fieldMarkerOnModel => "this attribute goes on a field, not on the model"
  | repeatedKey => "duplicate #[key] attribute"
  | repeatedAuto => "duplicate #[auto] attribute"
  | repeatedColumn => "duplicate #[column] attribute"
  | unexpectedArguments => "unexpected token in attribute"
  | columnWithoutArguments => "expected attribute arguments in parentheses: #[column(...)]"
  | columnWithValue => "expected parentheses: #[column(...)]"
  | columnWithNothing => "unexpected end of input, expected string literal"
  | columnNotText => "expected string literal"
  | columnWithMore => "expected `#[column(\"name\")]`"
  | emptyColumn => "column name cannot be empty"
  | tableOnField => "#[table] goes on the model, not on a field"
  | autoWithoutKey => "#[auto] requires #[key]"

/-- A string literal as written, with the text it stands for. -/
structure TextLiteral where
  written : List Char
  content : List Char
deriving DecidableEq

namespace TextLiteral

def ofTree? : TokenTree → Option TextLiteral
  | .token (.literal written) => (Literal.textContent? written).map fun c => ⟨written, c⟩
  | _ => none

def text (l : TextLiteral) : String := String.ofList l.content

end TextLiteral

/-- Goes through attributes in order. One that is refused leaves what was found before as it is and
adds its complaint. -/
def collect {σ : Type} (step : σ → Attribute → Except Complaint σ) :
    σ → List Attribute → σ × List Complaint
  | found, [] => (found, [])
  | found, a :: rest =>
    match step found a with
    | .ok next => collect step next rest
    | .error c =>
      let (last, more) := collect step found rest
      (last, c :: more)

def tableName (a : Attribute) : Except Complaint TextLiteral :=
  match a.arguments with
  | .value [t] =>
    match TextLiteral.ofTree? t with
    | some l => .ok l
    | none => .error .malformedTable
  | _ => .error .malformedTable

def markTable (table : Option TextLiteral) (a : Attribute) :
    Except Complaint (Option TextLiteral) :=
  match a.name with
  | some "table" => if table.isSome then .error .repeatedTable else (tableName a).map some
  | some "key" => .error .fieldMarkerOnModel
  | some "column" => .error .fieldMarkerOnModel
  | _ => .ok table

structure Marks where
  key : Bool
  auto : Bool
  column : Option TextLiteral
deriving DecidableEq

/-- The name in a `column` attribute: one string literal that is not empty. -/
def columnName (a : Attribute) : Except Complaint TextLiteral :=
  match a.arguments with
  | .none => .error .columnWithoutArguments
  | .value _ => .error .columnWithValue
  | .group [] => .error .columnWithNothing
  | .group (t :: rest) =>
    match TextLiteral.ofTree? t with
    | none => .error .columnNotText
    | some l =>
      if !rest.isEmpty then .error .columnWithMore
      else if l.content.isEmpty then .error .emptyColumn
      else .ok l

def withoutArguments {α : Type} (a : Attribute) (x : α) : Except Complaint α :=
  match a.arguments with
  | .none => .ok x
  | _ => .error .unexpectedArguments

namespace Marks

def empty : Marks := ⟨false, false, none⟩

def add (m : Marks) (a : Attribute) : Except Complaint Marks :=
  match a.name with
  | some "key" => if m.key then .error .repeatedKey else withoutArguments a { m with key := true }
  | some "auto" =>
    if m.auto then .error .repeatedAuto else withoutArguments a { m with auto := true }
  | some "column" =>
    if m.column.isSome then .error .repeatedColumn
    else (columnName a).map fun l => { m with column := some l }
  | some "table" => .error .tableOnField
  | _ => .ok m

end Marks

namespace Field

def marks (f : Field) : Marks × List Complaint :=
  let (found, complaints) := collect Marks.add Marks.empty f.attributes
  (found, complaints ++ if found.auto && !found.key then [.autoWithoutKey] else [])

end Field

structure DeclaredField where
  identifier : String
  type : List TokenTree
  marks : Marks

namespace DeclaredField

def source (f : DeclaredField) : String := unraw f.identifier

def column (f : DeclaredField) : String := (f.marks.column.map TextLiteral.text).getD f.source

end DeclaredField

structure DeclaredModel where
  visibility : List TokenTree
  identifier : String
  table : Option TextLiteral
  fields : List DeclaredField

namespace Struct

def complaints (s : Struct) (fields : List Field) : List Complaint :=
  (collect markTable none s.attributes).2 ++ fields.flatMap fun f => f.marks.2

/-- The model that a structure declares, or everything that is wrong with it. -/
def check (s : Struct) : Except (List Complaint) DeclaredModel :=
  match s.shape with
  | .unnamed => .error [.fieldsWithoutNames]
  | .named fields =>
    if s.hasParameters then .error [.parameters]
    else
      match s.complaints fields with
      | [] => .ok
        { visibility := s.visibility
          identifier := s.identifier
          table := (collect markTable none s.attributes).1
          fields := fields.map fun f => ⟨f.identifier, f.type, f.marks.1⟩ }
      | c :: rest => .error (c :: rest)

end Struct

end RecordMapper.Declaration
