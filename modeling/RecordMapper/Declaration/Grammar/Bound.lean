import RecordMapper.Declaration.Grammar.Path
/-!
# Bounds and parameters

Bounds say which traits a type has and which lifetimes something outlives. They stand behind
parameters, in conditions and in sums. A colon without bounds behind a parameter is not written out.
-/

namespace RecordMapper.Declaration.Grammar

open Reader

def boundsUntil (g : Grammar) (stop : Trees → Bool) : Reader Trees :=
  sumUntil stop (do return (← g.bound false true).written) "+"

def unlessEmpty (front : Trees) (rest : Trees) : Trees := if rest.isEmpty then [] else front ++ rest

/-- A colon with bounds, if there is one; without bounds it is not written out. -/
def optionalBounds (bounds : Reader Trees) : Reader Trees := do
  if hasMark ":" (← get) then
    let colon ← mark ":"
    return unlessEmpty colon (← bounds)
  else nothing

def lifetimeParameter : Reader Trees :=
  seq [lifetime, optionalBounds (sumUntil (hasOneMark [",", ">"]) lifetime "+")]

def typeParameter (g : Grammar) : Reader Trees :=
  seq [name, optionalBounds (boundsUntil g (hasOneMark [",", ">", "="])),
    given (hasMark "=") (seq [mark "=", g.typeTrees])]

def constParameter (g : Grammar) : Reader Trees :=
  seq [word "const", name, mark ":", g.typeTrees,
    given (hasMark "=") (seq [mark "=", constant g])]

def parameter (g : Grammar) : Reader (Bool × Trees) := do
  let front ← attributes g
  let ts ← get
  if hasLifetime ts then return (true, front ++ (← lifetimeParameter))
  else if hasWord "const" ts then return (false, front ++ (← constParameter g))
  else if hasWord "_" ts then return (false, front ++ (← anyWord))
  else return (false, front ++ (← typeParameter g))

def parameters (g : Grammar) : Reader (List Entry) := do
  if hasMark "<" (← get) then
    let _ ← mark "<"
    let entries ← Entry.read (parameter g)
    let _ ← mark ">"
    return entries
  else return []

/-- The trees of a list of parameters; an empty list is not written out. -/
def parameterTrees (entries : List Entry) : Trees :=
  let bracket (c : Char) : TokenTree := .token (.punctuation c false)
  if entries.isEmpty then [] else bracket '<' :: (Entry.arranged entries ++ [bracket '>'])

def generics (g : Grammar) : Reader Trees := do return parameterTrees (← parameters g)

/-- What `for` binds: parameters between angle brackets, in their order. -/
def binder (g : Grammar) : Reader Trees := do
  let front ← seq [word "for", mark "<"]
  let entries ← Entry.read do
    if hasWord "_" (← get) then failure else parameter g
  let closing ← mark ">"
  return front ++ entries.flatMap Entry.written ++ closing

def optionalBinder (g : Grammar) : Reader Trees := given (hasWord "for") (binder g)

def result (type : Reader Trees) : Reader Trees := given (hasMark "->") (seq [mark "->", type])

/-- The arguments and the result of a function's trait. A `::` in front is not written out. -/
def callArguments (g : Grammar) : Reader Trees := do
  let _ ← optionalMark "::"
  seq [inside .parenthesis (list g.typeTrees), result g.singleType]

/-- A trait, and whether it stands for a constant. -/
def traitBound (g : Grammar) (consts : Bool) : Reader (Bool × Trees) := do
  let front ← optionalBinder g
  let constness ← if hasGroup .bracket (← get) then inside .bracket (word "const")
    else optionalWord "const"
  require (constness.isEmpty || consts)
  let relaxed ← optionalMark "?"
  require (relaxed.isEmpty || front.isEmpty)
  let p ← unqualifiedPath g false
  let called (ts : Trees) : Bool := p.endsBare && (hasGroup .parenthesis ts ||
    hasMark "::" ts && hasGroup .parenthesis (ts.drop 2))
  let call ← given called (callArguments g)
  return (!constness.isEmpty, front ++ constness ++ relaxed ++ p.written ++ call)

def capture : Reader Trees := do
  let front ← seq [word "use", mark "<"]
  let entries ← Entry.read do
    if hasLifetime (← get) then return (true, ← lifetime)
    else if hasWord "Self" (← get) then return (false, ← anyWord)
    else return (false, ← name)
  let closing ← mark ">"
  return front ++ Entry.arranged entries ++ closing

def boundRule (g : Grammar) (captures consts : Bool) : Reader BoundPhrase := do
  let start ← get
  if hasLifetime start then return ⟨← lifetime, .lifetime⟩
  else if hasWord "use" start then
    let written ← capture
    require captures
    return ⟨written, .capture⟩
  else if hasGroup .parenthesis start then
    let (constness, bare) ← within .parenthesis (traitBound g consts)
    if constness then return ⟨← since start, .constant⟩
    else return ⟨[.group .parenthesis bare], .trait bare⟩
  else
    let (constness, written) ← traitBound g consts
    if constness then return ⟨← since start, .constant⟩ else return ⟨written, .trait written⟩

def hasBound (consts : Bool) (ts : Trees) : Bool :=
  hasAnyWord ts || hasOneMark ["::", "?"] ts || hasLifetime ts || hasGroup .parenthesis ts ||
    consts && hasGroup .bracket ts

/-- More bounds behind the first one, each behind a `+`; the last `+` may stand alone. -/
def moreBoundsWithin (bound : Reader BoundPhrase) (consts : Bool) :
    Trees → Reader (List BoundForm × Trees)
  | [] => return ([], [])
  | _ :: fuel => do
    if hasMark "+" (← get) then
      let plus ← mark "+"
      if hasBound consts (← get) then
        let front ← bound
        let (forms, rest) ← moreBoundsWithin bound consts fuel
        return (front.form :: forms, plus ++ (front.written ++ rest))
      else return ([], plus)
    else return ([], [])

def moreBounds (bound : Reader BoundPhrase) (consts : Bool) : Reader (List BoundForm × Trees) := do
  moreBoundsWithin bound consts (← get)

/-- Bounds joined by `+`; without `sums` there is one. -/
def bounds (bound : Reader BoundPhrase) (sums consts : Bool) : Reader (List BoundForm × Trees) := do
  let front ← bound
  if sums then
    let (forms, rest) ← moreBounds bound consts
    return (front.form :: forms, front.written ++ rest)
  else return ([front.form], front.written)

def BoundForm.isTrait : BoundForm → Bool
  | .trait _ => true
  | .constant => true
  | _ => false

/-- The bounds of a type, at least one of which is a trait. -/
def traits (bound : Reader BoundPhrase) (sums consts : Bool) : Reader Trees := do
  let (forms, written) ← bounds bound sums consts
  require (forms.any BoundForm.isTrait)
  return written

/-- Whether `<` begins parameters and not a path that starts with a type. -/
def beginsParameters (ts : Trees) : Bool :=
  let second := behind ts
  let third := behind second
  hasMark "<" ts &&
    (hasOneMark [">", "#"] second || hasWord "const" second ||
      (hasLifetime second || hasName second) &&
        (hasOneMark [">", ",", "="] third || hasMark ":" third && !hasMark "::" third))

def endsConditions (ts : Trees) : Bool :=
  ts.isEmpty || hasGroup .brace ts || hasOneMark [",", ";", "="] ts ||
    hasMark ":" ts && !hasMark "::" ts

def condition (g : Grammar) : Reader Trees := do
  let ts ← get
  if hasLifetime ts && hasMark ":" (behind ts) then
    seq [lifetime, mark ":",
      sumUntil (fun ts => endsConditions ts || hasMark ":" ts) lifetime "+"]
  else seq [optionalBinder g, g.typeTrees, mark ":", boundsUntil g endsConditions]

/-- The conditions behind `where`; without any the word is not written out. -/
def conditions (g : Grammar) : Reader Trees := do
  if hasWord "where" (← get) then
    let front ← word "where"
    require (!beginsParameters (← get))
    return unlessEmpty front (← sumUntil endsConditions (condition g) ",")
  else nothing

end RecordMapper.Declaration.Grammar
