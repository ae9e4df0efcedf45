/-!
# Tokens of declarations

A declaration is read as token trees: identifiers, single punctuation characters and literals, grouped
by brackets. A punctuation character knows whether another one follows it at once, so that `::` and
`: :` stay apart.
-/

namespace RecordMapper.Declaration

inductive Delimiter where
  | parenthesis | bracket | brace
deriving DecidableEq

def Delimiter.opening : Delimiter → String
  | parenthesis => "("
  | bracket => "["
  | brace => "\x7b"

def Delimiter.closing : Delimiter → String
  | parenthesis => ")"
  | bracket => "]"
  | brace => "\x7d"

inductive Token where
  /-- An identifier or keyword as written, with its `r#` if it has one. -/
  | identifier (name : String)
  | punctuation (c : Char) (joint : Bool)
  | literal (text : List Char)
deriving DecidableEq

def Token.text : Token → String
  | identifier name => name
  | punctuation c _ => String.singleton c
  | literal text => String.ofList text

inductive TokenTree where
  | token (t : Token)
  | group (d : Delimiter) (content : List TokenTree)

namespace TokenTree

mutual

def texts : TokenTree → List String
  | token t => [t.text]
  | group d content => d.opening :: (allTexts content ++ [d.closing])

def allTexts : List TokenTree → List String
  | [] => []
  | t :: rest => texts t ++ allTexts rest

end

end TokenTree

/-- A token of the text, before brackets are matched. -/
inductive Lexeme where
  | token (t : Token)
  | opening (d : Delimiter)
  | closing (d : Delimiter)

namespace TokenTree

/-- Matches brackets: `open_` holds the groups that are open, each with the reversed trees before it,
and `read` the reversed trees of the innermost one. -/
def build : List Lexeme → List (Delimiter × List TokenTree) → List TokenTree →
    Option (List TokenTree)
  | [], [], read => some read.reverse
  | [], _ :: _, _ => none
  | .token t :: rest, open_, read => build rest open_ (.token t :: read)
  | .opening d :: rest, open_, read => build rest ((d, read) :: open_) []
  | .closing _ :: _, [], _ => none
  | .closing d :: rest, (d', before) :: open_, read =>
    if d = d' then build rest open_ (.group d read.reverse :: before) else none

def ofLexemes? (lexemes : List Lexeme) : Option (List TokenTree) := build lexemes [] []

end TokenTree

end RecordMapper.Declaration
