import RecordMapper.Declaration.Grammar.Basic
/-!
# Attributes, visibilities and blocks

What may stand around any item: attributes in front of it or at the front of its body, its visibility,
and the braces around its statements.
-/

namespace RecordMapper.Declaration.Grammar

open Reader

def hasPathWord (ts : Trees) : Bool :=
  hasName ts || hasOneWord ["super", "self", "Self", "crate"] ts

def plainPath : Reader Trees := seq [optionalMark "::", chain (one hasPathWord) "::"]

/-- The value of an attribute: a literal alone, or an expression without attributes of its own. -/
def attributeValue (g : Grammar) : Reader Trees := do
  let ts ← get
  if hasLiteral ts && (ts.drop (if hasMark "-" ts then 2 else 1)).isEmpty then literal
  else if hasMark "#" ts && hasGroup .bracket (behind ts) then failure
  else g.exprTrees

def attributePath : Reader Trees := do
  if hasWord "unsafe" (← get) then word "unsafe" else plainPath

def attributeArguments (g : Grammar) : Reader Trees := do
  let ts ← get
  if hasGroup .parenthesis ts || hasGroup .bracket ts || hasGroup .brace ts then anyGroup
  else if hasMark "=" ts && !hasMark "==" ts && !hasMark "=>" ts then
    seq [mark "=", attributeValue g]
  else nothing

def attributeContent (g : Grammar) : Reader Trees := seq [attributePath, attributeArguments g]

def attributes (g : Grammar) : Reader Trees :=
  many (hasMark "#") (seq [mark "#", inside .bracket (attributeContent g)])

/-- The attributes at the front of a body that are about what it belongs to. -/
def innerAttributes (g : Grammar) : Reader Trees :=
  many (fun ts => hasMark "#" ts && hasMark "!" (behind ts))
    (seq [mark "#", mark "!", inside .bracket (attributeContent g)])

/-- A visibility. After `pub` a group of parentheses belongs to it if it holds one of the words for a
place, or `in` and a path. -/
def visibility : Reader Trees := do
  if hasWord "pub" (← get) then
    let front ← word "pub"
    match ← get with
    | .group .parenthesis [.token (.identifier place)] :: _ =>
      if ["crate", "self", "super"].contains place then return front ++ (← anyGroup)
      else return front
    | .group .parenthesis (.token (.identifier "in") :: _) :: _ =>
      return front ++ (← inside .parenthesis (seq [word "in", plainPath]))
    | _ => return front
  else nothing

def block (g : Grammar) : Reader Trees := inside .brace g.statements

def body (g : Grammar) : Reader Trees := inside .brace (seq [innerAttributes g, g.statements])

end RecordMapper.Declaration.Grammar
