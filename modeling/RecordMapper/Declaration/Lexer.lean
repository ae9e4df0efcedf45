import RecordMapper.Declaration.Literal
import RecordMapper.Declaration.Token
import RecordMapper.Text.Escaped
/-!
# Lexer of declarations

Splits a text into tokens. Blanks and comments separate tokens; a documentation comment stands for the
attribute `doc` with the comment's text.
-/

namespace RecordMapper.Declaration.Lexer

open Literal (Scan)

/-- Skips a block comment from behind its opening; `depth` comments are open around it. -/
def afterBlock (depth : Nat) : Scan
  | [] => none
  | '/' :: '*' :: rest => afterBlock (depth + 1) rest
  | '*' :: '/' :: rest =>
    match depth with
    | 0 => some rest
    | depth + 1 => afterBlock depth rest
  | _ :: rest => afterBlock depth rest

def line : List Char → List Char × List Char
  | [] => ([], [])
  | '\n' :: rest => ([], '\n' :: rest)
  | '\r' :: '\n' :: rest => ([], '\n' :: rest)
  | c :: rest => (c :: (line rest).1, (line rest).2)

def skipOne : Scan
  | '/' :: '*' :: '*' :: '/' :: rest => some rest
  | '/' :: '*' :: '*' :: '*' :: rest => afterBlock 0 ('*' :: '*' :: rest)
  | '/' :: '*' :: '*' :: _ => none
  | '/' :: '*' :: '!' :: _ => none
  | '/' :: '*' :: rest => afterBlock 0 rest
  | '/' :: '/' :: '/' :: '/' :: rest => some (line rest).2
  | '/' :: '/' :: '/' :: _ => none
  | '/' :: '/' :: '!' :: _ => none
  | '/' :: '/' :: rest => some (line rest).2
  | c :: rest => if CharClass.isBlank c then some rest else none
  | [] => none

def skipWithin : List Char → List Char → List Char
  | [], cs => cs
  | _ :: fuel, cs =>
    match skipOne cs with
    | none => cs
    | some rest => skipWithin fuel rest

/-- Skips blanks and comments; each has at least one character, so the text bounds the steps. -/
def skip (cs : List Char) : List Char := skipWithin cs cs

/-- A carriage return stands only before a line feed. -/
def hasCleanLines : List Char → Bool
  | [] => true
  | '\r' :: '\n' :: rest => hasCleanLines rest
  | c :: rest => c != '\r' && hasCleanLines rest

def block (cs : List Char) : Option (List Char × List Char) :=
  (afterBlock 0 cs).map fun rest => (cs.take (cs.length - rest.length - 2), rest)

/-- A documentation comment: whether it is about what is around it, its text, and what follows. -/
def documentation : List Char → Option (Bool × List Char × List Char)
  | '/' :: '/' :: '!' :: rest => some (true, line rest)
  | '/' :: '*' :: '!' :: rest => (block rest).map (true, ·)
  | '/' :: '/' :: '/' :: rest => if rest.head? = some '/' then none else some (false, line rest)
  | '/' :: '*' :: '*' :: rest => if rest.head? = some '*' then none else (block rest).map (false, ·)
  | _ => none

def documentationLexemes (inner : Bool) (text : List Char) : List Lexeme :=
  let mark (c : Char) : Lexeme := .token (.punctuation c false)
  mark '#' :: ((if inner then [mark '!'] else []) ++
    [.opening .bracket, .token (.identifier "doc"), mark '=',
      .token (.literal (Escaped.token (String.ofList text)).toList), .closing .bracket])

def punctuationChars : List Char := "~!@#$%^&*-=+|;:,<.>/?'".toList

/-- Whether a punctuation character stands in front; the slash of a comment is none. -/
def beginsPunctuation : List Char → Bool
  | '/' :: '/' :: _ => false
  | '/' :: '*' :: _ => false
  | c :: _ => punctuationChars.contains c
  | [] => false

def identifier : Scan
  | 'r' :: '#' :: rest =>
    match Literal.word rest with
    | none => none
    | some after =>
      let name := String.ofList (rest.take (rest.length - after.length))
      if ["_", "super", "self", "Self", "crate"].contains name then none else some after
  | cs => Literal.word cs

/-- Marks in front of which no identifier is read, since a quoted literal should stand there. -/
def literalMarks : List (List Char) :=
  ["r\"", "r#\"", "r##", "b\"", "b'", "br\"", "br#", "c\"", "cr\"", "cr#"].map String.toList

/-- A punctuation character. A single quote is one only in front of a name that is not closed by
another, as in a lifetime. -/
def punctuation (cs : List Char) : Option (Token × List Char) :=
  if !beginsPunctuation cs then none
  else
    match cs with
    | [] => none
    | '\'' :: rest =>
      match identifier rest with
      | none => none
      | some after =>
        if after.head? = some '\'' then none
        else if after.head? = some '#' ∧ (Literal.afterMark ['r', '#'] rest).isNone then none
        else some (.punctuation '\'' true, rest)
    | c :: rest => some (.punctuation c (beginsPunctuation rest), rest)

def leaf (cs : List Char) : Option (Token × List Char) :=
  match Literal.scan cs with
  | some rest => some (.literal (cs.take (cs.length - rest.length)), rest)
  | none =>
    match punctuation cs with
    | some found => some found
    | none =>
      if literalMarks.any fun mark => (Literal.afterMark mark cs).isSome then none
      else
        (identifier cs).map fun rest =>
          (.identifier (String.ofList (cs.take (cs.length - rest.length))), rest)

def next (cs : List Char) : Option (List Lexeme × List Char) :=
  let comment := (documentation cs).filter fun (_, text, _) => hasCleanLines text
  match comment with
  | some (inner, text, rest) => some (documentationLexemes inner text, rest)
  | none =>
    match cs with
    | '(' :: rest => some ([.opening .parenthesis], rest)
    | '[' :: rest => some ([.opening .bracket], rest)
    | '\x7b' :: rest => some ([.opening .brace], rest)
    | ')' :: rest => some ([.closing .parenthesis], rest)
    | ']' :: rest => some ([.closing .bracket], rest)
    | '\x7d' :: rest => some ([.closing .brace], rest)
    | _ => (leaf cs).map fun (t, rest) => ([.token t], rest)

def lexemesWithin : List Char → List Char → Option (List Lexeme)
  | [], _ => some []
  | _ :: fuel, cs =>
    match skip cs with
    | [] => some []
    | front =>
      match next front with
      | none => none
      | some (found, rest) => (lexemesWithin fuel rest).map (found ++ ·)

def lexemes (cs : List Char) : Option (List Lexeme) := lexemesWithin cs cs

/-- The token trees of a text; a byte order mark in front is no part of it. -/
def trees (text : String) : Option (List TokenTree) :=
  let cs := match text.toList with
    | '\ufeff' :: rest => rest
    | cs => cs
  (lexemes cs).bind TokenTree.ofLexemes?

end RecordMapper.Declaration.Lexer
