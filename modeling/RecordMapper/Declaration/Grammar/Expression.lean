import RecordMapper.Declaration.Grammar.Pattern
import RecordMapper.Declaration.Grammar.Type
/-!
# Expressions

An expression is built from operands and binary operators, which bind more or less tightly. A record
in braces stands behind a path only where no block may stand, so what is read knows whether records are
admitted.
-/

namespace RecordMapper.Declaration.Grammar

open Reader

/-- How tightly an operator binds, the loosest first. -/
inductive Precedence where
  | jump | assign | range | or | and | compare | bitOr | bitXor | bitAnd | shift | sum | product
  | cast
deriving DecidableEq

def Precedence.rank : Precedence → Nat
  | jump => 0
  | assign => 1
  | range => 2
  | or => 3
  | and => 4
  | compare => 5
  | bitOr => 6
  | bitXor => 7
  | bitAnd => 8
  | shift => 9
  | sum => 10
  | product => 11
  | cast => 12

/-- The binary operators; where one is the beginning of another, the longer one comes first. -/
def operators : List (String × Precedence) :=
  [("<<=", .assign), (">>=", .assign), ("+=", .assign), ("-=", .assign), ("*=", .assign),
    ("/=", .assign), ("%=", .assign), ("^=", .assign), ("&=", .assign), ("|=", .assign),
    ("&&", .and), ("||", .or), ("<<", .shift), (">>", .shift), ("==", .compare), ("<=", .compare),
    ("!=", .compare), (">=", .compare), ("+", .sum), ("-", .sum), ("*", .product), ("/", .product),
    ("%", .product), ("^", .bitXor), ("&", .bitAnd), ("|", .bitOr), ("<", .compare),
    (">", .compare)]

def operatorAhead? (ts : Trees) : Option (String × Precedence) :=
  operators.find? fun (m, _) => hasMark m ts

def precedenceAhead (ts : Trees) : Precedence :=
  match operatorAhead? ts with
  | some (_, p) => p
  | none =>
    if hasMark "=" ts && !hasMark "=>" ts then .assign
    else if hasMark ".." ts then .range
    else if hasWord "as" ts then .cast
    else .jump

def endsRange (records : Bool) (ts : Trees) : Bool :=
  ts.isEmpty || hasMark "." ts && !hasMark ".." ts || !records && hasGroup .brace ts ||
    hasWord "as" ts || hasOneMark [",", ";", "?", "=>", "=", "+", "/", "%", "^", ">", "<=", "!=",
      "-=", "*=", "&=", "|=", "<<="] ts

def rangeTail (records : Bool) (right : Reader Trees) : Reader Trees := do
  require (!hasMark "..." (← get))
  let (closed, dots) ← rangeDots
  if !closed && endsRange records (← get) then return dots else return dots ++ (← right)

/-- Nothing that would have to take a conversion as its operand may stand behind one. -/
def allowsCast (ts : Trees) : Bool :=
  !(hasMark "." ts && !hasMark ".." ts || hasMark "?" ts || hasGroup .bracket ts ||
    hasGroup .parenthesis ts)

mutual

/-- What follows an operand, as far as it binds at least as tightly as `base`. -/
def continuedWithin (g : Grammar) (records : Bool) :
    Nat → ExprPhrase → Precedence → Reader ExprPhrase
  | 0, _, _ => failure
  | n + 1, left, base => do
    let ts ← get
    if left.form = .range then return left
    else
      match operatorAhead? ts with
      | some (m, p) =>
        if p.rank < base.rank then return left
        else
          require (!(p = .compare ∧ left.form = .comparison))
          let operator ← mark m
          let right ← rightWithin g records n p
          let form := if p = .compare then .comparison else .plain
          continuedWithin g records n ⟨left.written ++ (operator ++ right), form⟩ base
      | none =>
        if base.rank ≤ Precedence.assign.rank && hasMark "=" ts && !hasMark "=>" ts then
          let equals ← mark "="
          let right ← rightWithin g records n .assign
          continuedWithin g records n ⟨left.written ++ (equals ++ right), .plain⟩ base
        else if base.rank ≤ Precedence.range.rank && hasMark ".." ts then
          let tail ← rangeTail records (rightWithin g records n .range)
          return ⟨left.written ++ tail, .range⟩
        else if base.rank ≤ Precedence.cast.rank && hasWord "as" ts then
          let cast ← seq [word "as", g.singleType]
          require (allowsCast (← get))
          continuedWithin g records n ⟨left.written ++ cast, .plain⟩ base
        else return left

def rightWithin (g : Grammar) (records : Bool) : Nat → Precedence → Reader Trees
  | 0, _ => failure
  | n + 1, p => do grownWithin g records n (← g.operand records) p

def grownWithin (g : Grammar) (records : Bool) : Nat → ExprPhrase → Precedence → Reader Trees
  | 0, _, _ => failure
  | n + 1, right, p => do
    let ts ← get
    let next := precedenceAhead ts
    if p.rank < next.rank || next = .assign && p = .assign then
      let more ← continuedWithin g records n right next
      if (← get).length = ts.length then return more.written
      else grownWithin g records n more p
    else return right.written

end

/-- More steps than operators and operands can take. -/
def steps : Reader Nat := do return 4 * ((← get).length + 1)

def continued (g : Grammar) (records : Bool) (left : ExprPhrase) (base : Precedence) :
    Reader ExprPhrase := do
  continuedWithin g records (← steps) left base

def expressionRule (g : Grammar) (records : Bool) : Reader ExprPhrase := do
  continued g records (← g.operand records) .jump

def hasExpr (ts : Trees) : Bool :=
  hasAnyWord ts && !hasWord "as" ts || hasGroup .parenthesis ts || hasGroup .bracket ts ||
    hasGroup .brace ts || hasLiteral ts || hasMark "!" ts && !hasMark "!=" ts ||
    hasMark "-" ts && !hasMark "-=" ts && !hasMark "->" ts || hasMark "*" ts && !hasMark "*=" ts ||
    hasMark "|" ts && !hasMark "|=" ts || hasMark "&" ts && !hasMark "&=" ts || hasMark ".." ts ||
    hasMark "<" ts && !hasMark "<=" ts && !hasMark "<<=" ts || hasMark "::" ts ||
    hasLifetime ts || hasMark "#" ts

/-! ### Blocks -/

/-- An expression in front of a block. -/
def subject (g : Grammar) : Reader Trees := do return (← g.expression false).written

def branchesWithin (g : Grammar) : Trees → Reader Trees
  | [] => failure
  | _ :: fuel => do
    let front ← seq [word "if", subject g, block g]
    if hasWord "else" (← get) then
      let other ← word "else"
      if hasWord "if" (← get) then return front ++ (other ++ (← branchesWithin g fuel))
      else return front ++ (other ++ (← block g))
    else return front

def branches (g : Grammar) : Reader Trees := do branchesWithin g (← get)

/-- An arm of a match. A comma must follow it, unless a block ends it or it is the last. -/
def arm (g : Grammar) : Reader Trees := do
  let front ← seq [attributes g, alternativeTrees g,
    given (hasWord "if") (seq [word "if", g.exprTrees]), mark "=>"]
  let value ← g.leading
  let comma ← if value.form ≠ .block && !(← get).isEmpty then mark "," else optionalMark ","
  return front ++ value.written ++ comma

def whileLoop (g : Grammar) : Reader Trees := seq [word "while", subject g, body g]

def forLoop (g : Grammar) : Reader Trees :=
  seq [word "for", alternativeTrees g, word "in", subject g, body g]

def endlessLoop (g : Grammar) : Reader Trees := seq [word "loop", body g]

def labelled (g : Grammar) : Reader Trees := do
  let label ← seq [lifetime, mark ":"]
  let ts ← get
  let rest ←
    if hasWord "while" ts then whileLoop g
    else if hasWord "for" ts then forLoop g
    else if hasWord "loop" ts then endlessLoop g
    else body g
  return label ++ rest

def blockAhead? (g : Grammar) (ts : Trees) : Option (Reader Trees) :=
  let second := behind ts
  if hasWord "if" ts then some (branches g)
  else if hasWord "while" ts then some (whileLoop g)
  else if hasWord "for" ts && !beginsParameters second then some (forLoop g)
  else if hasWord "loop" ts then some (endlessLoop g)
  else if hasWord "match" ts then
    some (seq [word "match", subject g, inside .brace (seq [innerAttributes g, all (arm g)])])
  else if hasWord "try" ts && hasGroup .brace second then some (seq [word "try", block g])
  else if hasWord "unsafe" ts then some (seq [word "unsafe", body g])
  else if hasWord "const" ts && hasGroup .brace second then some (seq [word "const", body g])
  else if hasGroup .brace ts then some (body g)
  else if hasLifetime ts then some (labelled g)
  else none

/-! ### Atoms -/

def closureParameter (g : Grammar) : Reader Trees := do
  let front ← attributes g
  let p ← g.pattern
  if hasMark ":" (← get) then return front ++ p.written ++ (← seq [mark ":", g.typeTrees])
  else if p.form = .verbatim then return p.written
  else return front ++ p.written

def closure (g : Grammar) (records : Bool) : Reader Trees := do
  let front ← seq [optionalBinder g, optionalWord "const", optionalWord "static",
    optionalWord "async", optionalWord "move", mark "|",
    listUntil (hasMark "|") (closureParameter g) ",", mark "|"]
  if hasMark "->" (← get) then return front ++ (← seq [mark "->", g.typeTrees, block g])
  else return front ++ (← g.expression records).written

def beginsClosure (ts : Trees) : Bool :=
  let second := behind ts
  hasMark "|" ts || hasOneWord ["move", "static"] ts ||
    hasWord "for" ts && beginsParameters second ||
    hasWord "const" ts && !hasGroup .brace second ||
    hasWord "async" ts && (hasMark "|" second || hasWord "move" second)

def beginsAsync (ts : Trees) : Bool :=
  let second := behind ts
  hasWord "async" ts &&
    (hasGroup .brace second || hasWord "move" second && hasGroup .brace (behind second))

def memberValue (g : Grammar) : Reader Trees := do
  let front ← attributes g
  let (named, written) ← member
  if !named || hasMark ":" (← get) then
    return front ++ written ++ (← seq [mark ":", g.exprTrees])
  else return front ++ written

/-- The members of a record; two dots at the end stand for the others, perhaps taken from a value. -/
def memberValuesWithin (g : Grammar) : Trees → Reader Trees
  | [] => nothing
  | _ :: fuel => do
    let ts ← get
    if ts.isEmpty then nothing
    else if hasMark ".." ts then seq [mark "..", given (fun ts => !ts.isEmpty) g.exprTrees]
    else
      let front ← memberValue g
      if (← get).isEmpty then return front
      else
        let comma ← mark ","
        return front ++ (comma ++ (← memberValuesWithin g fuel))

def memberValues (g : Grammar) : Reader Trees := do
  memberValuesWithin g (← get)

def pathExpr (g : Grammar) (records : Bool) : Reader ExprPhrase := do
  let p ← path g true
  let ts ← get
  if p.isInvoked ts then
    return ⟨p.written ++ (← invocation), .invocation (hasGroup .brace (behind ts))⟩
  else if records && hasGroup .brace ts then
    return ⟨p.written ++ (← inside .brace (memberValues g)), .plain⟩
  else return ⟨p.written, .plain⟩

/-- Leaves a block or a loop. A label stands alone, since with a colon it would begin a loop. -/
def breakExpr (g : Grammar) (records : Bool) : Reader Trees := do
  let front ← seq [word "break", given hasLifetime lifetime]
  let ts ← get
  require (front.length = 1 || !hasMark ":" ts)
  if hasExpr ts && (records || !hasGroup .brace ts) then return front ++ (← g.exprTrees)
  else return front

def arrayItems (g : Grammar) : Reader Trees := do
  if (← get).isEmpty then nothing
  else
    let first ← g.exprTrees
    let ts ← get
    if ts.isEmpty then return first
    else if hasMark ";" ts then return first ++ (← seq [mark ";", g.exprTrees])
    else return first ++ (← seq [mark ",", list g.exprTrees])

def atom (g : Grammar) (records : Bool) : Reader ExprPhrase := do
  let plain (trees : Reader Trees) : Reader ExprPhrase := do return ⟨← trees, .plain⟩
  let ts ← get
  let second := behind ts
  if hasLiteral ts then plain literal
  else if beginsAsync ts then plain (seq [word "async", optionalWord "move", block g])
  else if beginsClosure ts then plain (closure g records)
  else if hasWord "builtin" ts && hasMark "#" second then
    let written ← raw (seq [anyWord, mark "#", name, inside .parenthesis everything])
    return ⟨written, .verbatim⟩
  else if beginsPath ts || hasWord "try" ts && hasOneMark ["!", "::"] second then pathExpr g records
  else
    match blockAhead? g ts with
    | some reader => return ⟨← reader, .block⟩
    | none =>
      if hasGroup .parenthesis ts then plain (inside .parenthesis (list g.exprTrees))
      else if hasGroup .bracket ts then plain (inside .bracket (arrayItems g))
      else if hasWord "break" ts then plain (breakExpr g records)
      else if hasWord "continue" ts then plain (seq [anyWord, given hasLifetime lifetime])
      else if hasOneWord ["return", "yield"] ts then
        plain (seq [anyWord, given hasExpr g.exprTrees])
      else if hasWord "become" ts then return ⟨← raw (seq [anyWord, g.exprTrees]), .verbatim⟩
      else if hasWord "let" ts then
        let front ← seq [word "let", alternativeTrees g, mark "="]
        let value ← continued g records (← g.operand records) .compare
        return ⟨front ++ value.written, .plain⟩
      else if hasMark ".." ts then
        return ⟨← rangeTail records (do rightWithin g records (← steps) .range), .range⟩
      else plain (word "_")

/-! ### Trailers -/

/-- The members that a number with a point names one after the other, and whether they are all there:
behind a last point another member follows. -/
def placesOf? (number : List Char) : Option (Trees × Bool) :=
  let point : TokenTree := .token (.punctuation '.' false)
  let front := number.takeWhile (· != '.')
  match Literal.index? front, number.dropWhile (· != '.') with
  | some n, '.' :: [] => some ([placeLiteral n, point], false)
  | some n, '.' :: back =>
    (Literal.index? back).map fun m => ([placeLiteral n, point, placeLiteral m], true)
  | _, _ => none

def singleMember (g : Grammar) : Reader Trees := do
  if hasWord "await" (← get) then anyWord
  else
    let (named, written) ← member
    if named then
      let generics ← given (hasMark "::") (seq [mark "::", arguments g])
      if !generics.isEmpty || hasGroup .parenthesis (← get) then
        return written ++ generics ++ (← inside .parenthesis (list g.exprTrees))
      else return written
    else return written

def memberAccess (g : Grammar) : Reader Trees := do
  match ← get with
  | .token (.literal text) :: rest =>
    if Literal.isNumber text && (Literal.wholeNumber? text).isNone then
      match placesOf? text with
      | none => failure
      | some (places, complete) =>
        set rest
        if complete then return places else return places ++ (← singleMember g)
    else singleMember g
  | _ => singleMember g

def trailedWithin (g : Grammar) : Trees → ExprPhrase → Reader ExprPhrase
  | [], e => return e
  | _ :: fuel, e => do
    let ts ← get
    let more (trailer : Reader Trees) : Reader ExprPhrase := do
      let written ← trailer
      trailedWithin g fuel ⟨e.written ++ written, .plain⟩
    if hasGroup .parenthesis ts then more (inside .parenthesis (list g.exprTrees))
    else if hasMark "." ts && !hasMark ".." ts && e.form ≠ .range then
      more (seq [mark ".", memberAccess g])
    else if hasGroup .bracket ts then more (inside .bracket g.exprTrees)
    else if hasMark "?" ts && e.form ≠ .range then more (mark "?")
    else return e

def trailed (g : Grammar) (e : ExprPhrase) : Reader ExprPhrase := do
  trailedWithin g (← get) e

def operandRule (g : Grammar) (records : Bool) : Reader ExprPhrase := do
  let start ← get
  let front ← attributes g
  let ts ← get
  let second := behind ts
  if hasMark "&" ts then
    let isRaw := hasWord "raw" second && hasOneWord ["mut", "const"] (behind second)
    let borrow ← seq [mark "&", if isRaw then seq [anyWord, anyWord] else optionalWord "mut"]
    return ⟨front ++ borrow ++ (← g.operand records).written, .plain⟩
  else if hasOneMark ["*", "!", "-"] ts then
    let operator ← one (fun _ => true)
    return ⟨front ++ operator ++ (← g.operand records).written, .plain⟩
  else
    let e ← trailed g (← atom g records)
    if e.form = .verbatim then return ⟨← since start, .verbatim⟩
    else
      require (front.isEmpty || e.form ≠ .range)
      return ⟨front ++ e.written, e.form⟩

/-- An expression at the front of a statement. A block ends it, unless a member or a question mark
follows at once. -/
def leadingRule (g : Grammar) : Reader ExprPhrase := do
  let front ← attributes g
  let ts ← get
  let e ← match blockAhead? g ts with
    | some reader => do pure ⟨← reader, .block⟩
    | none => g.operand true
  let marked (e : ExprPhrase) : ExprPhrase :=
    if e.form = .verbatim then e else ⟨front ++ e.written, e.form⟩
  let ts ← get
  if e.form ≠ .block then continued g true (marked e) .jump
  else if hasMark "." ts && !hasMark ".." ts || hasMark "?" ts then
    continued g true (marked (← trailed g e)) .jump
  else return marked e

end RecordMapper.Declaration.Grammar
