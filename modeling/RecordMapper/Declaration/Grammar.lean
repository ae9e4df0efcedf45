import RecordMapper.Declaration.Grammar.Item
/-!
# The grammar of declarations

Types, expressions, patterns, statements and items hold one another. The rules are joined step by step:
a grammar of some depth reads what is nested in its phrases with the grammar of the depth below. Reading
starts at a depth that the trees cannot use up.
-/

namespace RecordMapper.Declaration

namespace Grammar

def rule (g : Grammar) : (k : Nonterminal) → Reader k.Result
  | .type sums => typeRule g sums
  | .bound captures consts => boundRule g captures consts
  | .expression records => expressionRule g records
  | .operand records => operandRule g records
  | .leading => leadingRule g
  | .pattern => patternRule g
  | .statements => statementsRule g
  | .item => itemRule g
  | .imported rooted => importedRule g rooted
  | .fields => fieldsRule g

def ofDepth : Nat → Grammar
  | 0 => ⟨fun _ => failure⟩
  | n + 1 => ⟨fun k => rule (ofDepth n) k⟩

mutual

def weight : TokenTree → Nat
  | .token _ => 1
  | .group _ content => weights content + 1

def weights : List TokenTree → Nat
  | [] => 0
  | t :: rest => weight t + weights rest

end

/-- The grammar for phrases of these trees. At most sixteen rules meet the same token one inside the
other. -/
def forTrees (ts : Trees) : Grammar := ofDepth (16 * (weights ts + 1))

end Grammar

end RecordMapper.Declaration
