import RecordMapper.Declaration.Grammar.Attribute
/-!
# Paths and their arguments

A path names a type, a trait or a value; its parts may have arguments between angle brackets. Where
lifetimes stand among other arguments or parameters they are written out first.
-/

namespace RecordMapper.Declaration.Grammar

open Reader

/-- One argument or parameter of a list between angle brackets. -/
structure Entry where
  isLifetime : Bool
  written : Trees
  isFollowed : Bool

namespace Entry

/-- The trees of a list, lifetimes first. A comma is added where a lifetime without one gets in front
of something else. -/
def arranged (entries : List Entry) : Trees :=
  let (lifetimes, others) := entries.partition isLifetime
  let gap := if lifetimes.any (!·.isFollowed) && !others.isEmpty then
    [.token (.punctuation ',' false)] else []
  lifetimes.flatMap written ++ gap ++ others.flatMap written

def readWithin (item : Reader (Bool × Trees)) : Trees → Reader (List Entry)
  | [] => failure
  | _ :: fuel => do
    if hasMark ">" (← get) then return []
    else
      let (isLifetime, written) ← item
      if hasMark ">" (← get) then return [⟨isLifetime, written, false⟩]
      else
        let comma ← mark ","
        return ⟨isLifetime, written ++ comma, true⟩ :: (← readWithin item fuel)

def read (item : Reader (Bool × Trees)) : Reader (List Entry) := do
  readWithin item (← get)

end Entry

def constant (g : Grammar) : Reader Trees := do
  let ts ← get
  if hasLiteral ts then literal
  else if hasName ts then name
  else body g

def argument (g : Grammar) : Reader (Bool × Trees) := do
  let ts ← get
  if hasLifetime ts && !hasMark "+" (behind ts) then return (true, ← lifetime)
  else if hasLiteral ts || hasGroup .brace ts then return (false, ← constant g)
  else
    let t ← g.type true
    let ts ← get
    match t.form with
    | .name =>
      if hasMark "=" ts then
        let equals ← mark "="
        let ts ← get
        let value ← if hasLiteral ts || hasGroup .brace ts then constant g else g.typeTrees
        return (false, t.written ++ equals ++ value)
      else if hasMark ":" ts then
        let colon ← mark ":"
        let bounds ← sumUntil (hasOneMark [",", ">"]) (do return (← g.bound false true).written) "+"
        return (false, t.written ++ colon ++ bounds)
      else return (false, t.written)
    | _ => return (false, t.written)

def arguments (g : Grammar) : Reader Trees := do
  let opening ← mark "<"
  let entries ← Entry.read (argument g)
  let closing ← mark ">"
  return opening ++ Entry.arranged entries ++ closing

structure Path where
  written : Trees
  /-- Whether it begins with a type between angle brackets. -/
  isQualified : Bool
  isRooted : Bool
  /-- For each part, whether it has arguments. -/
  arguments : List Bool

namespace Path

def isPlain (p : Path) : Bool := !p.isQualified && p.arguments.all (!·)

def isSingle (p : Path) : Bool := !p.isQualified && !p.isRooted && p.arguments.length == 1

def endsBare (p : Path) : Bool := p.arguments.getLast? == some false

end Path

/-- Whether arguments follow a part of a path. In expressions they stand behind `::` only. -/
def hasArguments (inExpr : Bool) (ts : Trees) : Bool :=
  !inExpr && hasMark "<" ts && !hasMark "<=" ts && !hasMark "<<=" ts ||
    hasMark "::" ts && hasMark "<" (ts.drop 2)

/-- A part of a path, and whether it has arguments. -/
def segment (g : Grammar) (inExpr : Bool) : Reader (Bool × Trees) := do
  if hasOneWord ["super", "self", "crate", "try"] (← get) then return (false, ← anyWord)
  else
    let front ← if hasWord "Self" (← get) then anyWord else name
    if hasArguments inExpr (← get) then
      return (true, front ++ (← optionalMark "::") ++ (← arguments g))
    else return (false, front)

def segmentsWithin (g : Grammar) (inExpr : Bool) (next : Trees → Bool) :
    Trees → Reader (List Bool × Trees)
  | [] => failure
  | _ :: fuel => do
    let (hasArguments, front) ← segment g inExpr
    if next (← get) then
      let colons ← mark "::"
      let (more, rest) ← segmentsWithin g inExpr next fuel
      return (hasArguments :: more, front ++ (colons ++ rest))
    else return ([hasArguments], front)

def segments (g : Grammar) (inExpr : Bool) (next : Trees → Bool) : Reader (List Bool × Trees) := do
  segmentsWithin g inExpr next (← get)

/-- A path that does not begin with a type. It ends in front of `::` with parentheses behind it. -/
def unqualifiedPath (g : Grammar) (inExpr : Bool) : Reader Path := do
  let root ← optionalMark "::"
  let (arguments, written) ← segments g inExpr fun ts =>
    hasMark "::" ts && !hasGroup .parenthesis (ts.drop 2)
  return ⟨root ++ written, false, !root.isEmpty, arguments⟩

def path (g : Grammar) (inExpr : Bool) : Reader Path := do
  if hasMark "<" (← get) then
    let front ← seq [mark "<", g.typeTrees,
      given (hasWord "as") (seq [word "as", do return (← unqualifiedPath g false).written]),
      mark ">", mark "::"]
    let (arguments, written) ← segments g inExpr (hasMark "::")
    return ⟨front ++ written, true, false, arguments⟩
  else unqualifiedPath g inExpr

def Path.isInvoked (p : Path) (ts : Trees) : Bool := p.isPlain && hasMark "!" ts && !hasMark "!=" ts

def invocation : Reader Trees := seq [mark "!", anyGroup]

end RecordMapper.Declaration.Grammar
