import RecordMapper.Declaration.Grammar.Path
import RecordMapper.Decimal.Digits
/-!
# Patterns

What a value is matched against. The end of a closed range may be written with three dots; it is
written out with `..=`.
-/

namespace RecordMapper.Declaration.Grammar

open Reader

def placeLiteral (n : Nat) : TokenTree := .token (.literal (Decimal.natText n).toList)

/-- The name or the number of a member, and whether it is a name. -/
def member : Reader (Bool × Trees) := do
  let ts ← get
  if hasName ts then return (true, ← name)
  else
    match ts with
    | .token (.literal text) :: rest =>
      match Literal.index? text with
      | some n =>
        set rest
        return (false, [placeLiteral n])
      | none => failure
    | _ => failure

/-- The dots of a range, and whether its end belongs to it. -/
def rangeDots : Reader (Bool × Trees) := do
  let ts ← get
  let dot : TokenTree := .token (.punctuation '.' true)
  let closedDots : Trees := [dot, dot, .token (.punctuation '=' false)]
  if hasMark "..=" ts then return (true, ← mark "..=")
  else if hasMark "..." ts then
    let _ ← mark "..."
    return (true, closedDots)
  else return (false, ← mark "..")

def beginsPath (ts : Trees) : Bool := hasPathWord ts || hasOneMark ["::", "<"] ts

/-- One end of a range in a pattern, or nothing where the range is open. -/
def rangeEnd (g : Grammar) : Reader Trees := do
  let ts ← get
  if ts.isEmpty || hasOneMark ["|", "=", ",", ";"] ts || hasMark ":" ts && !hasMark "::" ts ||
      hasWord "if" ts then nothing
  else if hasLiteral ts then literal
  else if beginsPath ts then return (← path g true).written
  else seq [word "const", body g]

def rangeFrom (g : Grammar) (front : Trees) : Reader PatternPhrase := do
  let (closed, dots) ← rangeDots
  let back ← rangeEnd g
  require (!closed || !back.isEmpty)
  return ⟨front ++ dots ++ back, if back.isEmpty then .openRange else .plain⟩

def rangeTo (g : Grammar) : Reader PatternPhrase := do
  let (closed, dots) ← rangeDots
  let back ← rangeEnd g
  require (!closed || !back.isEmpty)
  return ⟨dots ++ back, if back.isEmpty then .rest else .openRange⟩

def hasBar (ts : Trees) : Bool := hasMark "|" ts && !hasMark "||" ts && !hasMark "|=" ts

def patternTrees (g : Grammar) : Reader Trees := do return (← g.pattern).written

def alternatives (g : Grammar) : Reader PatternPhrase := do
  let bar ← optionalMark "|"
  let first ← g.pattern
  let rest ← many hasBar (seq [mark "|", patternTrees g])
  if bar.isEmpty && rest.isEmpty then return first
  else return ⟨bar ++ first.written ++ rest, .plain⟩

def alternativeTrees (g : Grammar) : Reader Trees := do return (← alternatives g).written

def memberPattern (g : Grammar) : Reader Trees := do
  let front ← seq [optionalWord "box", optionalWord "ref", optionalWord "mut"]
  if !front.isEmpty then return front ++ (← name)
  else
    let (named, written) ← member
    if !named || hasMark ":" (← get) then
      return written ++ (← seq [mark ":", alternativeTrees g])
    else return written

def memberPatternsWithin (g : Grammar) : Trees → Reader Trees
  | [] => nothing
  | _ :: fuel => do
    if (← get).isEmpty then nothing
    else
      let front ← attributes g
      if hasMark ".." (← get) then return front ++ (← mark "..")
      else
        let pattern ← memberPattern g
        if (← get).isEmpty then return front ++ pattern
        else
          let comma ← mark ","
          return front ++ (pattern ++ (comma ++ (← memberPatternsWithin g fuel)))

def memberPatterns (g : Grammar) : Reader Trees := do
  memberPatternsWithin g (← get)

def pathPattern (g : Grammar) : Reader PatternPhrase := do
  let p ← path g true
  let ts ← get
  if p.isInvoked ts then return ⟨p.written ++ (← invocation), .plain⟩
  else if hasGroup .brace ts then return ⟨p.written ++ (← inside .brace (memberPatterns g)), .plain⟩
  else if hasGroup .parenthesis ts then
    return ⟨p.written ++ (← inside .parenthesis (list (alternativeTrees g))), .plain⟩
  else if hasMark ".." ts then rangeFrom g p.written
  else return ⟨p.written, .plain⟩

def binding (g : Grammar) : Reader Trees := do
  let front ← seq [optionalWord "ref", optionalWord "mut"]
  let own ← if hasWord "self" (← get) then anyWord else name
  return front ++ own ++ (← given (hasMark "@") (seq [mark "@", patternTrees g]))

/-- A pattern in a slice; an open range needs parentheses there. -/
def slicePattern (g : Grammar) : Reader Trees := do
  let p ← alternatives g
  require (p.form ≠ .openRange)
  return p.written

def patternRule (g : Grammar) : Reader PatternPhrase := do
  let plain (trees : Reader Trees) : Reader PatternPhrase := do return ⟨← trees, .plain⟩
  let ts ← get
  let second := behind ts
  let isPath := hasName ts && (hasOneMark ["::", "!", ".."] second || hasGroup .brace second ||
    hasGroup .parenthesis second)
  if isPath || hasWord "self" ts && hasMark "::" second || hasOneMark ["::", "<"] ts ||
      hasOneWord ["Self", "super", "crate"] ts then pathPattern g
  else if hasWord "_" ts then plain anyWord
  else if hasWord "box" ts then return ⟨← raw (seq [word "box", patternTrees g]), .verbatim⟩
  else if hasMark "-" ts || hasLiteral ts || hasWord "const" ts then
    let front ← rangeEnd g
    if hasMark ".." (← get) then rangeFrom g front else return ⟨front, .plain⟩
  else if hasName ts || hasOneWord ["ref", "mut", "self"] ts then plain (binding g)
  else if hasMark "&" ts then plain (seq [mark "&", optionalWord "mut", patternTrees g])
  else if hasGroup .parenthesis ts then plain (inside .parenthesis (list (alternativeTrees g)))
  else if hasGroup .bracket ts then plain (inside .bracket (list (slicePattern g)))
  else
    require (!hasMark "..." ts)
    rangeTo g

end RecordMapper.Declaration.Grammar
