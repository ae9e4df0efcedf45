import RecordMapper.Declaration.Grammar
import RecordMapper.Declaration.Lexer
/-!
# Declarations of record types

A record type is declared as a structure: attributes, a visibility, a name, and its fields. Reading a
declaration keeps what later steps look at: the attributes with their arguments, the names, and the
trees of types and visibilities as they are written out again.
-/

namespace RecordMapper.Declaration

open Reader Grammar

inductive Arguments where
  | none
  | group (content : Trees)
  | value (content : Trees)

structure Attribute where
  /-- The attribute's name if its path is a single name. -/
  name : Option String
  arguments : Arguments

structure Field where
  attributes : List Attribute
  /-- The name as written, with its `r#` if it has one. -/
  identifier : String
  type : Trees

inductive Shape where
  | named (fields : List Field)
  | unnamed

structure Struct where
  attributes : List Attribute
  visibility : Trees
  identifier : String
  /-- Whether there are any generic parameters: lifetimes, types or constants. -/
  hasParameters : Bool
  shape : Shape

/-- The name that an identifier stands for: `r#` only keeps it from being a keyword. -/
def unraw (identifier : String) : String :=
  match identifier.toList with
  | 'r' :: '#' :: rest => String.ofList rest
  | _ => identifier

namespace Arguments

def ofTrees : Trees → Arguments
  | [] => .none
  | .group _ content :: _ => .group content
  | _ :: content => .value content

end Arguments

namespace Attribute

def nameOf : Trees → Option String
  | [.token (.identifier n)] => some n
  | _ => none

def ofContent (g : Grammar) : Reader Attribute := do
  let path ← attributePath
  let arguments ← get
  let _ ← attributeArguments g
  return ⟨nameOf path, .ofTrees arguments⟩

def readAll (g : Grammar) : Reader (List Attribute) :=
  repeated (hasMark "#") do
    let _ ← mark "#"
    within .bracket (ofContent g)

end Attribute

namespace Field

/-- A field with a name; `_` passes for one. -/
def read (g : Grammar) : Reader Field := do
  let attributes ← Attribute.readAll g
  let _ ← Grammar.visibility
  let isNamed := !hasWord "_" (← get)
  let own ← Reader.identifier fun ts => hasName ts || hasWord "_" ts
  let _ ← mark ":"
  return ⟨attributes, own, ← fieldType g isNamed⟩

end Field

namespace Shape

/-- The fields behind the head of a structure. Fields in parentheses, or none at all, end with a
semicolon. -/
def read (g : Grammar) : Reader Shape := do
  if hasGroup .parenthesis (← get) then
    let _ ← seq [placedFields g, conditions g, mark ";"]
    return .unnamed
  else
    let _ ← conditions g
    if hasMark ";" (← get) then
      let _ ← mark ";"
      return .unnamed
    else return .named (← within .brace (entries (Field.read g)))

end Shape

namespace Struct

def ofItem (g : Grammar) : Reader Struct := do
  let attributes ← Attribute.readAll g
  let place ← Grammar.visibility
  let _ ← word "struct"
  let own ← Reader.identifier hasName
  let parameters ← parameters g
  return ⟨attributes, place, own, !parameters.isEmpty, ← Shape.read g⟩

/-- The structure that the trees declare, if they declare one and nothing else. -/
def ofTrees? (ts : Trees) : Option Struct :=
  match ofItem (forTrees ts) ts with
  | some (s, []) => some s
  | _ => none

def read (text : String) : Option Struct := (Lexer.trees text).bind ofTrees?

end Struct

end RecordMapper.Declaration
