/-!
# Quoted literals

A literal is its content between single quotes, each single quote of the content written twice.
`strip` takes one enclosing pair off again, so that the content can stand inside another literal.
-/

namespace RecordMapper.Quoted

/-- The content of a literal: a single quote is written twice and all else once. -/
def double : List Char → List Char
  | [] => []
  | c :: rest => if c = '\'' then c :: c :: double rest else c :: double rest

def literal (s : String) : String :=
  "'" ++ String.ofList (double s.toList) ++ "'"

/-- `text` without its first and last character when both are single quotes, else `text`; a lone
quote is no pair. -/
def strip (text : String) : String :=
  match text.toList with
  | '\'' :: rest => if rest.getLast? = some '\'' then String.ofList rest.dropLast else text
  | _ => text

theorem double_append (a b : List Char) : double (a ++ b) = double a ++ double b := by
  induction a with
  | nil => rfl
  | cons c rest ih => by_cases h : c = '\'' <;> simp [double, h, ih]

theorem toList_literal (s : String) :
    (literal s).toList = '\'' :: double s.toList ++ ['\''] := by
  simp [literal]

end RecordMapper.Quoted
