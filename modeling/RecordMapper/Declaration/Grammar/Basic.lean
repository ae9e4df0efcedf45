import RecordMapper.Declaration.Reader
/-!
# Phrases

Types, expressions, patterns and items hold one another. A grammar reads each of them inside the
others; readers for one kind of phrase take a grammar for what is nested in it. Besides its trees a
phrase keeps what decides how it may go on.
-/

namespace RecordMapper.Declaration

/-- What a type is, as far as it matters to what surrounds it. -/
inductive TypeForm where
  | name
  | path
  /-- A single bound, whose trees are `bare` without parentheses around it. -/
  | bound (bare : Trees)
  | other

structure TypePhrase where
  written : Trees
  form : TypeForm

inductive BoundForm where
  | lifetime
  /-- The parameters that a type captures. -/
  | capture
  | trait (bare : Trees)
  /-- A trait in a constant's place; it is written out as it stands. -/
  | constant

structure BoundPhrase where
  written : Trees
  form : BoundForm

inductive ExprForm where
  | plain
  | range
  | comparison
  /-- A block or a statement with one, which ends a statement by itself. -/
  | block
  | invocation (braces : Bool)
  /-- Something that is written out as it stands, without the attributes in front of it. -/
  | verbatim
deriving DecidableEq

structure ExprPhrase where
  written : Trees
  form : ExprForm

inductive PatternForm where
  | plain
  | rest
  /-- A range without one of its ends. -/
  | openRange
  | verbatim
deriving DecidableEq

structure PatternPhrase where
  written : Trees
  form : PatternForm

inductive Nonterminal where
  /-- A type; with `sums` it may be a sum of bounds. -/
  | type (sums : Bool)
  /-- A bound; `captures` and `consts` admit captured parameters and constant traits. -/
  | bound (captures consts : Bool)
  /-- An expression; with `records` a path may have a record in braces behind it. -/
  | expression (records : Bool)
  | operand (records : Bool)
  /-- An expression at the front of a statement, which a block may end. -/
  | leading
  | pattern
  | statements
  | item
  /-- What an import names; with `rooted` it may begin with `::`. -/
  | imported (rooted : Bool)
  | fields

abbrev Nonterminal.Result : Nonterminal → Type
  | .type _ => TypePhrase
  | .bound _ _ => BoundPhrase
  | .expression _ => ExprPhrase
  | .operand _ => ExprPhrase
  | .leading => ExprPhrase
  | .pattern => PatternPhrase
  | .statements => Trees
  | .item => Trees
  | .imported _ => Trees
  | .fields => Trees

structure Grammar where
  read : (k : Nonterminal) → Reader k.Result

namespace Grammar

def type (g : Grammar) (sums : Bool) : Reader TypePhrase := g.read (.type sums)

def bound (g : Grammar) (captures consts : Bool) : Reader BoundPhrase :=
  g.read (.bound captures consts)

def expression (g : Grammar) (records : Bool) : Reader ExprPhrase := g.read (.expression records)

def operand (g : Grammar) (records : Bool) : Reader ExprPhrase := g.read (.operand records)

def leading (g : Grammar) : Reader ExprPhrase := g.read .leading

def pattern (g : Grammar) : Reader PatternPhrase := g.read .pattern

def statements (g : Grammar) : Reader Trees := g.read .statements

def item (g : Grammar) : Reader Trees := g.read .item

def imported (g : Grammar) (rooted : Bool) : Reader Trees := g.read (.imported rooted)

def fields (g : Grammar) : Reader Trees := g.read .fields

def typeTrees (g : Grammar) : Reader Trees := do return (← g.type true).written

def singleType (g : Grammar) : Reader Trees := do return (← g.type false).written

def exprTrees (g : Grammar) : Reader Trees := do return (← g.expression true).written

end Grammar

end RecordMapper.Declaration
