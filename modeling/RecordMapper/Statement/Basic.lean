import RecordMapper.Value
/-!
# Statements

A statement is a text with named parameters beside it. The text refers to a parameter by its name,
which begins with `@`; values never stand in the text.
-/

namespace RecordMapper

structure Parameter where
  name : String
  value : Value

structure Statement where
  text : String
  parameters : List Parameter

namespace Parameter

def same (p q : Parameter) : Bool := p.name == q.name && p.value.same q.value

end Parameter

namespace Statement

def empty : Statement := ⟨"", []⟩

def ofText (text : String) : Statement := ⟨text, []⟩

def bind (s : Statement) (name : String) (value : Value) : Statement :=
  ⟨s.text, s.parameters ++ [⟨name, value⟩]⟩

def value? (s : Statement) (name : String) : Option Value :=
  (s.parameters.find? fun p => p.name == name).map Parameter.value

def names (s : Statement) : List String := s.parameters.map Parameter.name

def sameParameters : List Parameter → List Parameter → Bool
  | [], [] => true
  | p :: ps, q :: qs => p.same q && sameParameters ps qs
  | _, _ => false

def same (s t : Statement) : Bool :=
  s.text == t.text && sameParameters s.parameters t.parameters

instance : BEq Statement := ⟨same⟩

def separator : String := ";\n"

/-- A text behind what was written so far; nothing separates it from an empty beginning. -/
def append (written text : String) : String :=
  if written = "" then text else written ++ separator ++ text

def joinTexts (texts : List String) : String := texts.foldl append ""

def concat (statements : List Statement) : Statement :=
  ⟨joinTexts (statements.map Statement.text), statements.flatMap Statement.parameters⟩

end Statement

end RecordMapper
