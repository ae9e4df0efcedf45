import RecordMapper.Declaration.Grammar.Statement
/-!
# Items

Items are what a block may declare: functions, types, constants, traits and the like. Some are read
only to be written out as they stand; all others lose what is empty in them.
-/

namespace RecordMapper.Declaration.Grammar

open Reader

/-! ### Functions -/

/-- Whether a function begins here; with `safe` it may be declared to be safe. -/
def beginsFunction (safe : Bool) (ts : Trees) : Bool :=
  let ts := behindWord "async" (behindWord "const" ts)
  let ts := if safe && hasWord "safe" ts then behind ts else behindWord "unsafe" ts
  let ts := if hasWord "extern" ts && hasText (behind ts) then behind (behind ts)
    else behindWord "extern" ts
  hasWord "fn" ts

def beginsOwnArgument (ts : Trees) : Bool :=
  let borrowed := hasMark "&" ts
  let target := if borrowed then if hasLifetime (ts.drop 1) then behind (ts.drop 1) else ts.drop 1
    else ts
  let target := behindWord "mut" target
  let next := behind target
  hasWord "self" target && (borrowed || !hasMark "::" next || hasMark ":::" next)

def ownArgument (g : Grammar) : Reader Trees := do
  if hasMark "&" (← get) then
    seq [mark "&", given hasLifetime lifetime, optionalWord "mut", word "self"]
  else
    seq [optionalWord "mut", word "self", given (hasMark ":") (seq [mark ":", g.typeTrees])]

def dots : Reader Trees := do
  let front ← mark "..."
  if (← get).isEmpty then return front
  else
    let comma ← mark ","
    require (← get).isEmpty
    return front ++ comma

/-- An argument with its type; dots for further arguments may stand in the type's place. A type alone,
with arguments of its own, gets `_` for a name. -/
def functionArgument (g : Grammar) : Reader Trees := do
  let ts ← get
  let colon : TokenTree := .token (.punctuation ':' false)
  if hasName ts && hasMark "<" (behind ts) then
    return .token (.identifier "_") :: colon :: (← g.typeTrees)
  else
    let front ← seq [patternTrees g, mark ":"]
    return front ++ (← if hasMark "..." (← get) then dots else g.typeTrees)

def functionArgumentsWithin (g : Grammar) (isFirst : Bool) : Trees → Reader Trees
  | [] => nothing
  | _ :: fuel => do
    if (← get).isEmpty then nothing
    else
      let front ← attributes g
      let ts ← get
      require (isFirst || !beginsOwnArgument ts)
      let argument ← if hasMark "..." ts then dots
        else if beginsOwnArgument ts then ownArgument g
        else functionArgument g
      if (← get).isEmpty then return front ++ argument
      else
        let comma ← mark ","
        return front ++ (argument ++ (comma ++ (← functionArgumentsWithin g false fuel)))

def functionArguments (g : Grammar) : Reader Trees := do
  functionArgumentsWithin g true (← get)

def signature (g : Grammar) (safe : Bool) : Reader Trees :=
  seq [optionalWord "const", optionalWord "async",
    do if safe && hasWord "safe" (← get) then anyWord else optionalWord "unsafe",
    optionalAbi, word "fn", name, generics g, inside .parenthesis (functionArguments g),
    result g.typeTrees, conditions g]

/-- A function with its body; one without is written out as it stands. -/
def function (g : Grammar) : Reader (Option Trees) := do
  let front ← signature g false
  if hasMark ";" (← get) then
    let _ ← mark ";"
    return none
  else return some (front ++ (← body g))

/-! ### Constants and types -/

/-- A constant. It is written out as it stands if it has parameters or conditions, or if it lacks a
value that it needs. -/
def constantItem (g : Grammar) (needsValue : Bool) : Reader (Option Trees) := do
  let front ← seq [word "const", one fun ts => hasName ts || hasWord "_" ts]
  let hasParameters := hasMark "<" (← get)
  let type ← seq [generics g, mark ":", g.typeTrees]
  let value ← given (hasMark "=") (seq [mark "=", g.exprTrees])
  let hasConditions := hasWord "where" (← get)
  let last ← seq [conditions g, mark ";"]
  if hasParameters || hasConditions || needsValue && value.isEmpty then return none
  else return some (front ++ type ++ value ++ last)

/-- A static variable. One without a type or a value is written out as it stands. -/
def staticItem (g : Grammar) : Reader (Option Trees) := do
  let front ← seq [word "static", optionalWord "mut", name]
  let type ← given (fun ts => !hasMark "=" ts) (seq [mark ":", g.typeTrees])
  let value ← given (fun ts => type.isEmpty || !hasMark ";" ts) (seq [mark "=", g.exprTrees])
  let last ← mark ";"
  if type.isEmpty || value.isEmpty then return none
  else return some (front ++ type ++ value ++ last)

inductive ConditionPlace where
  | early | late | both
deriving DecidableEq

/-- A name for a type. `plain` tells from whether it has bounds and a definition whether it is written
out otherwise than as it stands. -/
def typeItem (g : Grammar) (place : ConditionPlace) (plain : Bool → Bool → Bool) :
    Reader (Option Trees) := do
  let head ← seq [word "type", name, generics g]
  let hasColon := hasMark ":" (← get)
  let stop (ts : Trees) : Bool := hasWord "where" ts || hasOneMark ["=", ";"] ts
  let bounds ← optionalBounds
    (listUntil stop (do return (← g.bound false true).written) "+")
  let hasConditions := hasWord "where" (← get)
  let early ← if place = .late then nothing else conditions g
  let definition ← given (hasMark "=") (seq [mark "=", g.typeTrees])
  let late ← if place = .early || place = .both && hasConditions then nothing else conditions g
  let last ← mark ";"
  if plain hasColon !definition.isEmpty then
    return some (head ++ bounds ++ early ++ definition ++ late ++ last)
  else return none

/-! ### Structures -/

/-- The type of a field. One without a name may have fields of its own, which are written out as they
stand. -/
def fieldType (g : Grammar) (isNamed : Bool) : Reader Trees := do
  let ts ← get
  if !isNamed && (hasWord "struct" ts || hasWord "union" ts && hasGroup .brace (behind ts)) then
    raw (seq [anyWord, inside .brace g.fields])
  else g.typeTrees

def namedField (g : Grammar) : Reader Trees := do
  let front ← seq [attributes g, visibility]
  let isNamed := !hasWord "_" (← get)
  let own ← if isNamed then name else anyWord
  return front ++ own ++ (← seq [mark ":", fieldType g isNamed])

def fieldsRule (g : Grammar) : Reader Trees := list (namedField g)

def placedField (g : Grammar) : Reader Trees := seq [attributes g, visibility, g.typeTrees]

def placedFields (g : Grammar) : Reader Trees := inside .parenthesis (list (placedField g))

def structItem (g : Grammar) : Reader Trees :=
  seq [word "struct", name, generics g, do
    if hasGroup .parenthesis (← get) then seq [placedFields g, conditions g, mark ";"]
    else seq [conditions g,
      do if hasMark ";" (← get) then mark ";" else inside .brace g.fields]]

/-- A case of an enumeration; its visibility is not written out. -/
def variant (g : Grammar) : Reader Trees := do
  let front ← attributes g
  let _ ← visibility
  return front ++ (← seq [name, do
    let ts ← get
    if hasGroup .brace ts then inside .brace g.fields
    else if hasGroup .parenthesis ts then placedFields g
    else nothing,
    given (hasMark "=") (seq [mark "=", g.exprTrees])])

def enumItem (g : Grammar) : Reader Trees :=
  seq [word "enum", name, generics g, conditions g, inside .brace (list (variant g))]

def unionItem (g : Grammar) : Reader Trees :=
  seq [word "union", name, generics g, conditions g, inside .brace g.fields]

/-! ### Imports, modules and invocations -/

def newName : Reader Trees :=
  given (hasWord "as") (seq [word "as", one fun ts => hasName ts || hasWord "_" ts])

def importedRule (g : Grammar) (rooted : Bool) : Reader Trees := do
  let ts ← get
  if hasName ts || hasOneWord ["self", "super", "crate", "try"] ts then
    let front ← anyWord
    if hasMark "::" (← get) then return front ++ (← seq [mark "::", g.imported false])
    else return front ++ (← newName)
  else if hasMark "*" ts then mark "*"
  else
    inside .brace (list do
      let root ← if rooted then optionalMark "::" else nothing
      return root ++ (← g.imported (rooted && root.isEmpty)))

def importItem (g : Grammar) : Reader Trees := do
  let front ← seq [word "use", optionalMark "::"]
  return front ++ (← seq [g.imported (front.length = 1), mark ";"])

def externCrate : Reader Trees :=
  seq [word "extern", word "crate", one fun ts => hasName ts || hasWord "self" ts, newName,
    mark ";"]

def moduleItem (g : Grammar) : Reader Trees :=
  seq [optionalWord "unsafe", word "mod", one fun ts => hasName ts || hasWord "try" ts,
    do
      if hasMark ";" (← get) then mark ";"
      else inside .brace (seq [innerAttributes g, all g.item])]

/-- An invocation in an item's place. It may have a name, and ends with a semicolon if it has no
braces. -/
def invocationItem (isNamed : Bool) : Reader Trees := do
  let front ← seq [plainPath, mark "!",
    given (fun ts => isNamed && (hasName ts || hasWord "try" ts)) anyWord]
  let ts ← get
  return front ++ (← seq [anyGroup, given (fun _ => !hasGroup .brace ts) (mark ";")])

def mayInvoke (ts : Trees) : Bool :=
  hasName ts || hasOneWord ["self", "super", "crate"] ts || hasMark "::" ts

/-- A definition for the compiler to replace invocations by. -/
def replacement : Reader Trees :=
  seq [word "macro", name, given (hasGroup .parenthesis) anyGroup, inside .brace everything]

/-! ### Traits and implementations -/

/-- An item of a trait. With a visibility or `default` it is written out as it stands. -/
def traitMember (g : Grammar) : Reader Trees := orRaw do
  let front ← attributes g
  let isPlain := !hasOneWord ["pub", "default"] (← get)
  let _ ← seq [visibility, optionalWord "default"]
  let ts ← get
  let member? ←
    if beginsFunction false ts then
      let head ← signature g false
      let rest ← if hasMark ";" (← get) then mark ";" else body g
      pure (some (head ++ rest))
    else if hasWord "const" ts then constantItem g false
    else if hasWord "type" ts then typeItem g .late fun _ _ => true
    else
      require (isPlain && mayInvoke ts)
      return some (front ++ (← invocationItem false))
  return if isPlain then member?.map (front ++ ·) else none

def implMember (g : Grammar) : Reader Trees := orRaw do
  let front ← attributes g
  let isPlain := !hasWord "pub" (← get)
  let place ← visibility
  let default ← given (fun ts => hasWord "default" ts && !hasMark "!" (behind ts)) anyWord
  let ts ← get
  let member? ←
    if beginsFunction false ts then function g
    else if hasWord "const" ts then constantItem g true
    else if hasWord "type" ts then
      typeItem g .late fun hasColon isDefined => !hasColon && isDefined
    else
      require (isPlain && default.isEmpty && mayInvoke ts)
      return some (front ++ (← invocationItem false))
  return member?.map fun rest => front ++ place ++ default ++ rest

def superTraits (g : Grammar) : Reader Trees :=
  optionalBounds (listUntil (fun ts => hasWord "where" ts || hasGroup .brace ts)
    (do return (← g.bound false true).written) "+")

def traitItem (g : Grammar) : Reader Trees := do
  let qualifiers ← seq [optionalWord "unsafe", optionalWord "auto"]
  let head ← seq [word "trait", name, generics g]
  if qualifiers.isEmpty && hasMark "=" (← get) then
    let stop (ts : Trees) : Bool := hasWord "where" ts || hasMark ";" ts
    return head ++ (← seq [mark "=",
      listUntil stop (do return (← g.bound false false).written) "+", conditions g, mark ";"])
  else
    return qualifiers ++ head ++ (← seq [superTraits g, conditions g,
      inside .brace (seq [innerAttributes g, all (traitMember g)])])

def isTrait : TypeForm → Bool
  | .name => true
  | .path => true
  | _ => false

/-- An implementation. One for a constant trait, or of what is no path, is written out as it stands. -/
def implItem (g : Grammar) : Reader (Option Trees) := do
  let front ← seq [optionalWord "default", optionalWord "unsafe", word "impl",
    do if beginsParameters (← get) then generics g else nothing]
  let start ← get
  let isConst := hasWord "const" start || hasMark "?" start && hasWord "const" (behind start)
  let _ ← if isConst then seq [optionalMark "?", word "const"] else nothing
  let negated ← get
  let negation ← given (fun ts => hasMark "!" ts && !hasGroup .brace (behind ts)) (mark "!")
  let first ← g.type true
  let head ←
    if hasWord "for" (← get) then
      let rest ← seq [word "for", g.typeTrees]
      pure (if isTrait first.form then some (negation ++ first.written ++ rest) else none)
    else if negation.isEmpty then pure (some first.written)
    else pure (some (← since negated))
  let rest ← seq [conditions g, inside .brace (seq [innerAttributes g, all (implMember g)])]
  return if isConst then none else head.map fun head => front ++ head ++ rest

def foreignMember (g : Grammar) : Reader Trees := orRaw do
  let front ← attributes g
  let place ← visibility
  let ts ← get
  let declared? ←
    if beginsFunction true ts then
      let isSafe := hasWord "safe" (behindWord "async" (behindWord "const" ts))
      let head ← signature g true
      let hasBody := hasGroup .brace (← get)
      let rest ← if hasBody then body g else mark ";"
      pure (if isSafe || hasBody then none else some (head ++ rest))
    else if hasWord "static" ts ||
        hasOneWord ["unsafe", "safe"] ts && hasWord "static" (behind ts) then
      let isQualified := !hasWord "static" ts
      let qualifier ← given (fun _ => isQualified) anyWord
      let head ← seq [word "static", optionalWord "mut", name, mark ":", g.typeTrees]
      let value ← given (hasMark "=") (seq [mark "=", g.exprTrees])
      let last ← mark ";"
      pure (if isQualified || !value.isEmpty then none else some (qualifier ++ head ++ last))
    else if hasWord "type" ts then
      typeItem g .both fun hasColon isDefined => !hasColon && !isDefined
    else
      require (place.isEmpty && mayInvoke ts)
      return some (front ++ (← invocationItem false))
  return declared?.map fun rest => front ++ place ++ rest

def foreignModule (g : Grammar) : Reader Trees :=
  seq [optionalWord "unsafe", abi,
    inside .brace (seq [innerAttributes g, all (foreignMember g)])]

/-! ### Any item -/

def itemBehind (g : Grammar) (place : Trees) : Reader (Option Trees) := do
  let written (item : Reader Trees) : Reader (Option Trees) := do return some (← item)
  let ts ← get
  let second := behind ts
  if beginsFunction false ts then function g
  else if hasWord "extern" ts && hasWord "crate" second then written externCrate
  else if hasWord "extern" ts || hasWord "unsafe" ts && hasWord "extern" second then
    require place.isEmpty
    written (foreignModule g)
  else if hasWord "use" ts then written (importItem g)
  else if hasWord "static" ts then staticItem g
  else if hasWord "const" ts then constantItem g true
  else if hasWord "mod" (behindWord "unsafe" ts) then written (moduleItem g)
  else if hasWord "type" ts then typeItem g .early fun hasColon isDefined => !hasColon && isDefined
  else if hasWord "struct" ts then written (structItem g)
  else if hasWord "enum" ts then written (enumItem g)
  else if hasWord "union" ts && hasName second then written (unionItem g)
  else if hasWord "trait" (behindWord "auto" (behindWord "unsafe" ts)) then written (traitItem g)
  else if hasWord "impl" (behindWord "unsafe" ts) ||
      hasWord "default" ts && !hasMark "!" second then
    let item ← implItem g
    return if place.isEmpty then item else none
  else if hasWord "macro" ts then
    let _ ← replacement
    return none
  else
    require (place.isEmpty && mayInvoke ts)
    written (invocationItem true)

def itemRule (g : Grammar) : Reader Trees := orRaw do
  let front ← attributes g
  let place ← visibility
  return (← itemBehind g place).map fun rest => front ++ place ++ rest

end RecordMapper.Declaration.Grammar
