import RecordMapper.Text.Escaped
/-!
# Outlines

A text in nested parts: one part a line, each level indented by four blanks and each part followed by a
comma.
-/

namespace RecordMapper

inductive Outline where
  | leaf (text : String)
  | labelled (label : String) (part : Outline)
  | group (opening closing : String) (parts : List Outline)

namespace Outline

def struct (name : String) (fields : List (String × Outline)) : Outline :=
  group (name ++ " \x7b") "\x7d" (fields.map fun (label, part) => labelled label part)

def tagged (name : String) (part : Outline) : Outline := group (name ++ "(") ")" [part]

def sequence : List Outline → Outline
  | [] => leaf "[]"
  | parts => group "[" "]" parts

def text (s : String) : Outline := leaf (Escaped.shown s)

def quoted (s : String) : Outline := leaf (Escaped.quoted s)

def option : Option Outline → Outline
  | none => leaf "None"
  | some part => tagged "Some" part

/-- Every line one level deeper, with a comma behind the last. -/
def nest : List String → List String
  | [] => []
  | [line] => ["    " ++ line ++ ","]
  | line :: rest => ("    " ++ line) :: nest rest

mutual

def lines : Outline → List String
  | leaf text => [text]
  | labelled label part =>
    match lines part with
    | [] => []
    | first :: rest => (label ++ ": " ++ first) :: rest
  | group opening closing parts => opening :: (partLines parts ++ [closing])

def partLines : List Outline → List String
  | [] => []
  | part :: rest => nest (lines part) ++ partLines rest

end

def render (o : Outline) : String := String.intercalate "\n" o.lines

end Outline

end RecordMapper
