import RecordMapper.Declaration.Grammar.Expression
/-!
# Statements

A block holds items, bindings, invocations and expressions. Only an expression that ends with a block
of its own, or the last one, needs no semicolon.
-/

namespace RecordMapper.Declaration.Grammar

open Reader

def behindInvoked? (ts : Trees) : Option Trees :=
  match plainPath ts with
  | some (_, rest) => if hasMark "!" rest then some (behind rest) else none
  | none => none

def beginsNamedInvocation (ts : Trees) : Bool :=
  (behindInvoked? ts).any fun rest => hasName rest || hasWord "try" rest

/-- Whether an invocation with braces begins here that is a whole statement. -/
def beginsBraceInvocation (ts : Trees) : Bool :=
  (behindInvoked? ts).any fun rest =>
    let next := behind rest
    hasGroup .brace rest && !(hasMark "." next && !hasMark ".." next || hasMark "?" next)

def beginsItem (ts : Trees) : Bool :=
  let second := behind ts
  let functionWords := ["unsafe", "extern", "fn"]
  hasOneWord ["pub", "extern", "use", "fn", "mod", "type", "struct", "enum", "trait", "impl",
      "macro"] ts ||
    hasWord "crate" ts && !hasMark "::" second ||
    hasWord "static" ts && (hasWord "mut" second || hasName second) ||
    hasWord "const" ts && !(hasGroup .brace second || hasOneWord ["static", "move"] second ||
      hasMark "|" second || hasWord "async" second && !hasOneWord functionWords (behind second)) ||
    hasWord "unsafe" ts && !hasGroup .brace second ||
    hasWord "async" ts && hasOneWord functionWords second ||
    hasWord "union" ts && hasName second ||
    hasWord "auto" ts && hasWord "trait" second ||
    hasWord "default" ts && hasOneWord ["unsafe", "impl"] second

/-- The value of a binding. Behind one that does not end with a brace a block may say what happens
where the pattern is not met. -/
def initialValue (g : Grammar) : Reader Trees := do
  let value ← seq [mark "=", g.exprTrees]
  match value.getLast? with
  | some (.group .brace _) => return value
  | _ => return value ++ (← given (hasWord "else") (seq [word "else", block g]))

def letStatement (g : Grammar) : Reader Trees :=
  seq [word "let", patternTrees g, given (hasMark ":") (seq [mark ":", g.typeTrees]),
    given (hasMark "=") (initialValue g), mark ";"]

def endsStatement : ExprForm → Bool
  | .block => true
  | .invocation braces => braces
  | _ => false

def expressionStatement (g : Grammar) (front : Trees) : Reader Trees := do
  let e ← g.leading
  let semicolon ← optionalMark ";"
  require (endsStatement e.form || !semicolon.isEmpty || (← get).isEmpty)
  return (if e.form = .verbatim then [] else front) ++ e.written ++ semicolon

def statement (g : Grammar) : Reader Trees := do
  let start ← get
  if hasMark ";" start then mark ";"
  else
    let front ← attributes g
    let ts ← get
    if hasWord "let" ts then return front ++ (← letStatement g)
    else if beginsBraceInvocation ts then
      return front ++ (← seq [plainPath, invocation, optionalMark ";"])
    else if beginsNamedInvocation ts || beginsItem ts then
      set start
      g.item
    else expressionStatement g front

def statementsRule (g : Grammar) : Reader Trees := all (statement g)

end RecordMapper.Declaration.Grammar
