import RecordMapper.Declaration.Grammar.Bound
/-!
# Types

A type is a path, a sum of bounds, a function pointer, or made from other types. Parentheses around the
first bound of a sum belong to that bound.
-/

namespace RecordMapper.Declaration.Grammar

open Reader

def abi : Reader Trees := seq [word "extern", given hasText (one hasText)]

def optionalAbi : Reader Trees := given (hasWord "extern") abi

def hasDots (ts : Trees) : Bool :=
  hasMark "..." ts || (hasName ts || hasWord "_" ts) && hasMark ":" (behind ts) &&
    hasMark "..." (behind (behind ts))

def hasNamed (ts : Trees) : Bool := hasMark ":" (behind ts) && !hasMark "::" (behind ts)

def hasMutSelf (ts : Trees) : Bool := hasWord "mut" ts && hasWord "self" (behind ts)

/-- An argument of a function pointer, perhaps with a name. Only the first may be called `self`. -/
def pointerArgument (g : Grammar) (isFirst : Bool) : Reader Trees := do
  let start ← get
  let mutSelf := seq [word "mut", word "self"]
  if isFirst && hasMutSelf start then
    raw (seq [mutSelf, given (fun ts => hasMark ":" ts && !hasMark "::" ts)
      (seq [mark ":", g.typeTrees])])
  else if (hasName start || hasWord "_" start || isFirst && hasWord "self" start) &&
      hasNamed start then
    let front ← seq [anyWord, mark ":"]
    let ts ← get
    if isFirst && !hasWord "self" start && hasMutSelf ts then return front ++ (← mutSelf)
    else return front ++ (← g.typeTrees)
  else g.typeTrees

def pointerArgumentsWithin (g : Grammar) (isFirst : Bool) : Trees → Reader Trees
  | [] => nothing
  | _ :: fuel => do
    if (← get).isEmpty then nothing
    else
      let front ← attributes g
      if hasDots (← get) then
        let dots ← seq [given (fun ts => !hasMark "..." ts) (seq [anyWord, mark ":"]), mark "...",
          optionalMark ","]
        return front ++ dots
      else
        let argument ← pointerArgument g isFirst
        if (← get).isEmpty then return front ++ argument
        else
          let comma ← mark ","
          return front ++ (argument ++ (comma ++ (← pointerArgumentsWithin g false fuel)))

def pointerArguments (g : Grammar) : Reader Trees := do
  pointerArgumentsWithin g true (← get)

def pointer (g : Grammar) : Reader Trees :=
  seq [optionalWord "unsafe", optionalAbi, word "fn", inside .parenthesis (pointerArguments g),
    result g.singleType]

/-- A path as a type, an invocation, or the first of several bounds; `front` is what `for` binds. -/
def pathType (g : Grammar) (sums : Bool) (front : Trees) : Reader TypePhrase := do
  let p ← path g false
  let ts ← get
  if p.isQualified then return ⟨front ++ p.written, .other⟩
  else if p.isInvoked ts then return ⟨front ++ p.written ++ (← invocation), .other⟩
  else if !front.isEmpty || sums && hasMark "+" ts then
    let (_, rest) ← if sums then moreBounds (g.bound false false) false else pure ([], [])
    let written := front ++ p.written
    return ⟨written ++ rest, if rest.isEmpty then .bound written else .other⟩
  else return ⟨p.written, if p.isSingle then .name else .path⟩

def parenthesized (g : Grammar) : Reader (Option TypePhrase × Trees) := do
  if (← get).isEmpty then return (none, [])
  else
    let first ← g.type true
    if hasMark "," (← get) then
      return (none, first.written ++ (← seq [mark ",", list g.typeTrees]))
    else return (some first, first.written)

def TypePhrase.bare? (t : TypePhrase) : Option Trees :=
  match t.form with
  | .name => some t.written
  | .path => some t.written
  | .bound bare => some bare
  | .other => none

def addedBounds (g : Grammar) : Reader Trees :=
  many (hasMark "+") (seq [mark "+", do return (← g.bound false false).written])

/-- A type that begins with parentheses: a tuple, a type in parentheses, or a sum whose first bound
stands in parentheses. -/
def parenthesizedType (g : Grammar) (sums : Bool) : Reader TypePhrase := do
  let group (trees : Trees) : Trees := [.group .parenthesis trees]
  match ← get with
  | .group .parenthesis content :: _ =>
    if hasLifetime content then
      return ⟨← inside .parenthesis (traits (g.bound false false) true false), .other⟩
    else if hasMark "?" content then
      let (_, bare) ← within .parenthesis (traitBound g false)
      let rest ← addedBounds g
      return ⟨group bare ++ rest, if rest.isEmpty then .bound bare else .other⟩
    else
      let (first, written) ← within .parenthesis (parenthesized g)
      match first.bind TypePhrase.bare? with
      | some bare =>
        if sums && hasMark "+" (← get) then return ⟨group bare ++ (← addedBounds g), .other⟩
        else return ⟨group written, .other⟩
      | none => return ⟨group written, .other⟩
  | _ => failure

def arrayType (g : Grammar) : Reader Trees :=
  inside .bracket (seq [g.typeTrees, given (hasMark ";") (seq [mark ";", g.exprTrees])])

def typeRule (g : Grammar) (sums : Bool) : Reader TypePhrase := do
  let other (trees : Reader Trees) : Reader TypePhrase := do return ⟨← trees, .other⟩
  let ts ← get
  let placeWords := ["super", "self", "Self", "crate"]
  let pointerWords := ["fn", "unsafe", "extern"]
  if hasWord "for" ts then
    let front ← binder g
    let ts ← get
    require (hasName ts || hasOneWord (pointerWords ++ placeWords) ts)
    if hasOneWord pointerWords ts then return ⟨front ++ (← pointer g), .other⟩
    else pathType g sums front
  else if hasGroup .parenthesis ts then parenthesizedType g sums
  else if hasOneWord pointerWords ts then other (pointer g)
  else if hasName ts || hasOneWord placeWords ts || hasOneMark ["::", "<"] ts then
    pathType g sums []
  else if hasWord "dyn" ts then
    let trait := traits (g.bound false false) sums false
    if hasMark "*" (behind ts) then other (raw (seq [word "dyn", mark "*", trait]))
    else other (seq [word "dyn", trait])
  else if hasGroup .bracket ts then other (arrayType g)
  else if hasMark "*" ts then
    other (seq [mark "*", one (hasOneWord ["const", "mut"]), g.singleType])
  else if hasMark "&" ts then
    other (seq [mark "&", given hasLifetime lifetime, optionalWord "mut", g.singleType])
  else if hasMark "!" ts then other (mark "!")
  else if hasWord "impl" ts then other (seq [word "impl", traits (g.bound true true) sums true])
  else if hasWord "_" ts then other anyWord
  else
    require (hasLifetime ts)
    other (traits (g.bound false false) true false)

end RecordMapper.Declaration.Grammar
