import RecordMapper.Declaration.Marker
import RecordMapper.Mapping
/-!
# Code that follows from a declaration

From a declared model follow four pieces of code: the description of its mapping, the values of a
record, the record read from a row, and a path for each field. They are kept apart from their tokens,
so that what each says about a field can be compared.
-/

namespace RecordMapper.Declaration

structure DescribedField where
  source : String
  column : Option TextLiteral
  key : Bool
  auto : Bool

structure LoadedField where
  identifier : String
  type : List TokenTree
  column : String
  source : String

structure FieldPath where
  identifier : String
  type : List TokenTree
  source : String

structure Expansion where
  visibility : List TokenTree
  identifier : String
  name : String
  table : Option TextLiteral
  described : List DescribedField
  /-- The fields of a record in the order of its values. -/
  recorded : List String
  loaded : List LoadedField
  paths : List FieldPath

namespace DeclaredModel

def expansion (m : DeclaredModel) : Expansion where
  visibility := m.visibility
  identifier := m.identifier
  name := unraw m.identifier
  table := m.table
  described := m.fields.map fun f => ⟨f.source, f.marks.column, f.marks.key, f.marks.auto⟩
  recorded := m.fields.map DeclaredField.identifier
  loaded := m.fields.map fun f => ⟨f.identifier, f.type, f.column, f.source⟩
  paths := m.fields.map fun f => ⟨f.identifier, f.type, f.source⟩

end DeclaredModel

namespace DescribedField

def mapping (f : DescribedField) : FieldMapping :=
  ⟨f.source, f.column.map TextLiteral.text, f.key, f.auto⟩

end DescribedField

namespace Expansion

def declaration (e : Expansion) : EntityMapping :=
  ⟨e.name, e.table.map TextLiteral.text, e.described.map DescribedField.mapping⟩

def recordValues (e : Expansion) (record : String → Value) : List Value := e.recorded.map record

/-- Tokens written with a blank between two neighbours. -/
def tokens (text : String) : List String := (text.toList.splitOn ' ').map String.ofList

def support (name : String) : List String :=
  tokens "_quarry : : codegen_support : :" ++ [name]

def written (l : TextLiteral) : String := String.ofList l.written

def methodCall (name : String) (argument : List String) : List String :=
  [".", name, "("] ++ argument ++ [")"]

def typeTokens (type : List TokenTree) : List String := TokenTree.allTexts type

def describedTokens (f : DescribedField) : List String :=
  methodCall "field"
    (support "Field" ++ tokens ": : new (" ++ [Escaped.token f.source, ")"] ++
      (f.column.elim [] fun l => methodCall "column" [written l]) ++
      (if f.key then methodCall "key" [] else []) ++
      (if f.auto then methodCall "auto_increment" [] else []))

def entityTokens (e : Expansion) : List String :=
  ["impl"] ++ support "Entity" ++ ["for", e.identifier] ++
    tokens "\x7b fn describe ( ) - >" ++ support "Result" ++ ["<"] ++ support "EntityMapping" ++
    tokens "> \x7b" ++ support "EntityMapping" ++ tokens ": : builder (" ++
    [Escaped.token e.name, ")"] ++ (e.table.elim [] fun l => methodCall "table" [written l]) ++
    e.described.flatMap describedTokens ++ methodCall "build" [] ++ tokens "\x7d \x7d"

def recordedTokens (identifier : String) : List String :=
  support "Primitive" ++ tokens ": : to_value ( & self ." ++ [identifier, ")"]

def loadedTokens (f : LoadedField) : List String :=
  [f.identifier, ":"] ++ support "load_field" ++ tokens ": : <" ++ typeTokens f.type ++
    tokens "> ( row ," ++ [Escaped.token f.column, ",", Escaped.token f.source] ++ tokens ") ? ,"

def modelTokens (e : Expansion) : List String :=
  ["impl"] ++ support "Model" ++ ["for", e.identifier] ++
    tokens "\x7b fn to_record ( & self ) - >" ++ support "ValueRecord" ++ ["\x7b"] ++
    support "ValueRecord" ++ tokens ": : from_vec (" ++ support "Vec" ++ tokens ": : from ( [" ++
    List.intercalate [","] (e.recorded.map recordedTokens) ++ tokens "] ) ) \x7d" ++
    tokens "fn load ( row : &" ++ support "Row" ++ tokens ") - >" ++ support "Result" ++
    tokens "< Self > \x7b Ok ( Self \x7b" ++ e.loaded.flatMap loadedTokens ++
    tokens "\x7d ) \x7d \x7d"

def pathTokens (e : Expansion) (p : FieldPath) : List String :=
  typeTokens e.visibility ++ ["fn", p.identifier] ++ tokens "( & self ) - >" ++ support "Path" ++
    ["<"] ++ typeTokens p.type ++ tokens "> \x7b" ++ support "Path" ++ tokens ": : new (" ++
    [Escaped.token p.source] ++ tokens ") \x7d"

def pathsName (e : Expansion) : String := e.name ++ "Fields"

def fieldTokens (e : Expansion) : List String :=
  tokens "# [ derive ( Debug , Clone , Copy ) ]" ++ typeTokens e.visibility ++
    ["struct", e.pathsName, ";", "impl", e.pathsName, "\x7b"] ++ e.paths.flatMap e.pathTokens ++
    ["\x7d", "impl", e.identifier, "\x7b"] ++ typeTokens e.visibility ++
    tokens "fn fields ( ) - >" ++ [e.pathsName, "\x7b", e.pathsName] ++ tokens "\x7d \x7d"

def allTokens (e : Expansion) : List String :=
  tokens "const _ : ( ) = \x7b use quarry as _quarry ;" ++ e.entityTokens ++ e.modelTokens ++
    e.fieldTokens ++ tokens "\x7d ;"

def text (e : Expansion) : String := String.intercalate " " e.allTokens

end Expansion

inductive Refusal where
  | unreadable
  | complaints (found : List Complaint)

def generate (text : String) : Except Refusal Expansion :=
  match Struct.read text with
  | none => .error .unreadable
  | some s =>
    match s.check with
    | .error found => .error (.complaints found)
    | .ok m => .ok m.expansion

end RecordMapper.Declaration
