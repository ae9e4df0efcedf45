import RecordMapper.Declaration.Literal
import RecordMapper.Declaration.Token
/-!
# Readers of token trees

A reader takes something from the front of token trees and leaves the rest; it gives nothing if what it
looks for is not there. Most readers give the trees they took in the form in which they are written out
again. A reader never tries a second way after a first one failed: it looks ahead and then commits
itself, so its effort grows with the text and not with the number of ways. Each step of a repetition
takes at least one tree, so the trees that are there when it begins bound its steps.
-/

namespace RecordMapper.Declaration

abbrev Trees := List TokenTree

abbrev Reader := StateT Trees Option

namespace Reader

/-! ### Looking ahead -/

/-- The trees behind some punctuation, its characters without blanks between them. -/
def behindMark : List Char → Trees → Option Trees
  | [], ts => some ts
  | [c], .token (.punctuation d _) :: rest => if c = d then some rest else none
  | c :: cs, .token (.punctuation d true) :: rest => if c = d then behindMark cs rest else none
  | _, _ => none

def hasMark (m : String) (ts : Trees) : Bool := (behindMark m.toList ts).isSome

def hasOneMark (ms : List String) (ts : Trees) : Bool := ms.any fun m => hasMark m ts

def hasWord (w : String) : Trees → Bool
  | .token (.identifier n) :: _ => n == w
  | _ => false

def hasOneWord (ws : List String) (ts : Trees) : Bool := ws.any fun w => hasWord w ts

def hasGroup (d : Delimiter) : Trees → Bool
  | .group d' _ :: _ => d == d'
  | _ => false

def hasAnyWord : Trees → Bool
  | .token (.identifier _) :: _ => true
  | _ => false

def reserved : List String :=
  ["_", "abstract", "as", "async", "await", "become", "box", "break", "const", "continue", "crate",
    "do", "dyn", "else", "enum", "extern", "false", "final", "fn", "for", "if", "impl", "in", "let",
    "loop", "macro", "match", "mod", "move", "mut", "override", "priv", "pub", "ref", "return",
    "Self", "self", "static", "struct", "super", "trait", "true", "try", "type", "typeof", "unsafe",
    "unsized", "use", "virtual", "where", "while", "yield"]

/-- Whether a name stands in front: an identifier that is not reserved, or a raw one. -/
def hasName : Trees → Bool
  | .token (.identifier n) :: _ => !reserved.contains n
  | _ => false

def hasLifetime : Trees → Bool
  | .token (.punctuation '\'' true) :: .token (.identifier _) :: _ => true
  | _ => false

/-- Whether a literal stands in front. A minus sign belongs to a number behind it. -/
def hasLiteral : Trees → Bool
  | .token (.literal _) :: _ => true
  | .token (.identifier n) :: _ => n == "true" || n == "false"
  | .token (.punctuation '-' _) :: .token (.literal text) :: _ => Literal.isNumber text
  | _ => false

def hasText : Trees → Bool
  | .token (.literal text) :: _ => (Literal.textContent? text).isSome
  | _ => false

/-- The trees behind the first one; a lifetime counts as one. -/
def behind : Trees → Trees
  | .token (.punctuation '\'' true) :: .token (.identifier _) :: rest => rest
  | _ :: rest => rest
  | [] => []

def behindWord (w : String) (ts : Trees) : Trees := if hasWord w ts then behind ts else ts

/-! ### Single parts -/

def nothing : Reader Trees := pure []

def one (ok : Trees → Bool) : Reader Trees := fun ts =>
  match ts with
  | [] => none
  | t :: rest => if ok ts then some ([t], rest) else none

def mark (m : String) : Reader Trees := fun ts =>
  (behindMark m.toList ts).map fun rest => (ts.take m.length, rest)

def word (w : String) : Reader Trees := one (hasWord w)

def anyWord : Reader Trees := one hasAnyWord

def name : Reader Trees := one hasName

def identifier (ok : Trees → Bool) : Reader String := fun ts =>
  match ts with
  | .token (.identifier n) :: rest => if ok ts then some (n, rest) else none
  | _ => none

def lifetime : Reader Trees := fun ts =>
  if hasLifetime ts then some (ts.take 2, ts.drop 2) else none

def literal : Reader Trees := fun ts =>
  if !hasLiteral ts then none
  else if hasMark "-" ts then some (ts.take 2, ts.drop 2)
  else some (ts.take 1, ts.drop 1)

def anyGroup : Reader Trees
  | .group d content :: rest => some ([.group d content], rest)
  | _ => none

/-- What a reader makes of the whole content of a group. -/
def within {α : Type} (d : Delimiter) (content : Reader α) : Reader α
  | .group d' inner :: rest =>
    if d = d' then
      match content inner with
      | some (a, []) => some (a, rest)
      | _ => none
    else none
  | _ => none

def inside (d : Delimiter) (content : Reader Trees) : Reader Trees := do
  return [.group d (← within d content)]

/-! ### Parts in a row -/

def require (ok : Bool) : Reader Unit := if ok then pure () else failure

def seq : List (Reader Trees) → Reader Trees
  | [] => nothing
  | part :: rest => do
    let front ← part
    return front ++ (← seq rest)

/-- A part that is there exactly if the trees look so. -/
def given (ahead : Trees → Bool) (part : Reader Trees) : Reader Trees := do
  if ahead (← get) then part else nothing

def optionalMark (m : String) : Reader Trees := given (hasMark m) (mark m)

def optionalWord (w : String) : Reader Trees := given (hasWord w) (word w)

def since (start : Trees) : Reader Trees := do
  return start.take (start.length - (← get).length)

def raw (part : Reader Trees) : Reader Trees := do
  let start ← get
  let _ ← part
  since start

/-- What a part gives; where it gives nothing, what it took as it stands. -/
def orRaw (part : Reader (Option Trees)) : Reader Trees := do
  let start ← get
  match ← part with
  | some written => return written
  | none => since start

def repeatedWithin {α : Type} (ahead : Trees → Bool) (part : Reader α) : Trees → Reader (List α)
  | [] => return []
  | _ :: fuel => do
    if ahead (← get) then
      let first ← part
      return first :: (← repeatedWithin ahead part fuel)
    else return []

def repeated {α : Type} (ahead : Trees → Bool) (part : Reader α) : Reader (List α) := do
  repeatedWithin ahead part (← get)

def many (ahead : Trees → Bool) (part : Reader Trees) : Reader Trees := do
  return (← repeated ahead part).flatten

def all (part : Reader Trees) : Reader Trees := many (fun ts => !ts.isEmpty) part

def everything : Reader Trees := fun ts => some (ts, [])

def listWithin (stop : Trees → Bool) (item : Reader Trees) (between : String) : Trees → Reader Trees
  | [] => nothing
  | _ :: fuel => do
    if stop (← get) then nothing
    else
      let front ← item
      if stop (← get) then return front
      else
        let separator ← mark between
        return front ++ (separator ++ (← listWithin stop item between fuel))

/-- Items with a separator behind each up to where the list stops; the last one needs none. -/
def listUntil (stop : Trees → Bool) (item : Reader Trees) (between : String) : Reader Trees := do
  listWithin stop item between (← get)

/-- What is read from items with commas between them up to the end, and perhaps one behind the last. -/
def entriesWithin {α : Type} (item : Reader α) : Trees → Reader (List α)
  | [] => return []
  | _ :: fuel => do
    if (← get).isEmpty then return []
    else
      let first ← item
      if (← get).isEmpty then return [first]
      else
        let _ ← mark ","
        return first :: (← entriesWithin item fuel)

def entries {α : Type} (item : Reader α) : Reader (List α) := do
  entriesWithin item (← get)

def list (item : Reader Trees) : Reader Trees := listUntil List.isEmpty item ","

def sumWithin (stop : Trees → Bool) (item : Reader Trees) (between : String) : Trees → Reader Trees
  | [] => if stop [] then nothing else failure
  | _ :: fuel => do
    if stop (← get) then nothing
    else
      let front ← item
      if hasMark between (← get) then
        let separator ← mark between
        return front ++ (separator ++ (← sumWithin stop item between fuel))
      else return front

/-- Items as long as a separator joins them; the list ends early where it may stop. -/
def sumUntil (stop : Trees → Bool) (item : Reader Trees) (between : String) : Reader Trees := do
  sumWithin stop item between (← get)

def chain (item : Reader Trees) (between : String) : Reader Trees :=
  sumUntil (fun _ => false) item between

end Reader

end RecordMapper.Declaration
