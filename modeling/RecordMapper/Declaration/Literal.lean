import RecordMapper.Text.CharClass
/-!
# Literals of declarations

Scanners for string, character and number literals. A scanner takes the text from some place on and
gives what is left behind the literal, or nothing if no literal begins there. String literals are
decoded on the way: `cooked` and `raw` give the content they stand for.
-/

namespace RecordMapper.Declaration.Literal

abbrev Scan := List Char → Option (List Char)

/-- The kinds of quoted literals; they differ in the characters and escapes they admit. -/
inductive Flavour where
  | text
  | bytes
  /-- Text without NUL. -/
  | terminated
deriving DecidableEq

def hexValue? (c : Char) : Option Nat :=
  if c.isDigit then some (c.toNat - '0'.toNat)
  else if 'a' ≤ c ∧ c ≤ 'f' then some (c.toNat - 'a'.toNat + 10)
  else if 'A' ≤ c ∧ c ≤ 'F' then some (c.toNat - 'A'.toNat + 10)
  else none

/-- Up to six hexadecimal digits, with `_` behind the first, up to the closing brace. -/
def codePoint (count n : Nat) : List Char → Option (Char × List Char)
  | [] => none
  | c :: rest =>
    if c = '\x7d' then
      if 0 < count ∧ n.isValidChar then some (Char.ofNat n, rest) else none
    else if c = '_' then if 0 < count then codePoint count n rest else none
    else
      match hexValue? c with
      | some d => if count < 6 then codePoint (count + 1) (16 * n + d) rest else none
      | none => none

/-- The character of an escape, whose text begins behind the backslash. -/
def escape (f : Flavour) : List Char → Option (Char × List Char)
  | 'x' :: a :: b :: rest =>
    match hexValue? a, hexValue? b with
    | some x, some y =>
      if f = .text ∧ 8 ≤ x then none
      else if f = .terminated ∧ x = 0 ∧ y = 0 then none
      else some (Char.ofNat (16 * x + y), rest)
    | _, _ => none
  | 'u' :: '\x7b' :: rest =>
    if f = .bytes then none
    else
      match codePoint 0 0 rest with
      | some (c, rest) => if f = .terminated ∧ c = '\x00' then none else some (c, rest)
      | none => none
  | 'n' :: rest => some ('\n', rest)
  | 'r' :: rest => some ('\r', rest)
  | 't' :: rest => some ('\t', rest)
  | '0' :: rest => if f = .terminated then none else some ('\x00', rest)
  | c :: rest => if c = '\\' ∨ c = '\'' ∨ c = '"' then some (c, rest) else none
  | [] => none

/-- Skips the line break behind a backslash together with the blanks that follow it; a literal that
ends there is not closed. -/
def skipLineBreak : Scan
  | [] => none
  | '\r' :: '\n' :: rest => skipLineBreak rest
  | c :: rest =>
    if c = '\r' then none
    else if c = ' ' ∨ c = '\t' ∨ c = '\n' then skipLineBreak rest
    else some (c :: rest)

inductive Step where
  | closed (rest : List Char)
  | inside (content rest : List Char)

/-- The closing quote, an escape, a line break behind a backslash, or a plain character. A line ends
with a line feed, which a carriage return may precede. -/
def step (f : Flavour) : List Char → Option Step
  | [] => none
  | '"' :: rest => some (.closed rest)
  | '\r' :: '\n' :: rest => some (.inside ['\n'] rest)
  | '\r' :: _ => none
  | '\\' :: '\n' :: rest => (skipLineBreak ('\n' :: rest)).map (.inside [])
  | '\\' :: '\r' :: rest => (skipLineBreak ('\r' :: rest)).map (.inside [])
  | '\\' :: rest => (escape f rest).map fun (c, rest) => .inside [c] rest
  | c :: rest =>
    if f = .bytes ∧ 128 ≤ c.toNat ∨ f = .terminated ∧ c = '\x00' then none
    else some (.inside [c] rest)

def cookedWithin (f : Flavour) : List Char → List Char → Option (List Char × List Char)
  | [], _ => none
  | _ :: fuel, cs =>
    match step f cs with
    | none => none
    | some (.closed rest) => some ([], rest)
    | some (.inside content rest) =>
      (cookedWithin f fuel rest).map fun (more, rest) => (content ++ more, rest)

/-- The content of a literal from behind its opening quote, and what follows the closing one. Each step
takes at least one character, so the text bounds the steps. -/
def cooked (f : Flavour) (cs : List Char) : Option (List Char × List Char) := cookedWithin f cs cs

/-- `cs` without `mark` at its front. -/
def afterMark : List Char → Scan
  | [], cs => some cs
  | m :: ms, c :: cs => if m = c then afterMark ms cs else none
  | _ :: _, [] => none

def rawContent (f : Flavour) (hashes : List Char) : List Char → Option (List Char × List Char)
  | [] => none
  | '"' :: rest =>
    match afterMark hashes rest with
    | some after => some ([], after)
    | none => (rawContent f hashes rest).map fun (more, after) => ('"' :: more, after)
  | '\r' :: '\n' :: rest =>
    (rawContent f hashes rest).map fun (more, after) => ('\r' :: '\n' :: more, after)
  | c :: rest =>
    if c = '\r' ∨ f = .bytes ∧ 128 ≤ c.toNat ∨ f = .terminated ∧ c = '\x00' then none
    else (rawContent f hashes rest).map fun (more, after) => (c :: more, after)

def raw (f : Flavour) (cs : List Char) : Option (List Char × List Char) :=
  let hashes := cs.takeWhile (· == '#')
  match cs.dropWhile (· == '#') with
  | '"' :: rest => if hashes.length ≤ 255 then rawContent f hashes rest else none
  | _ => none

/-- A quoted literal with its content; what follows it may begin with a suffix. -/
def quoted : List Char → Option (Flavour × List Char × List Char)
  | '"' :: rest => (cooked .text rest).map (.text, ·)
  | 'b' :: '"' :: rest => (cooked .bytes rest).map (.bytes, ·)
  | 'c' :: '"' :: rest => (cooked .terminated rest).map (.terminated, ·)
  | 'b' :: 'r' :: rest => (raw .bytes rest).map (.bytes, ·)
  | 'c' :: 'r' :: rest => (raw .terminated rest).map (.terminated, ·)
  | 'r' :: rest => (raw .text rest).map (.text, ·)
  | _ => none

def word : Scan
  | c :: rest =>
    if CharClass.isIdentifierStart c then some (rest.dropWhile CharClass.isIdentifierContinue)
    else none
  | [] => none

def afterSuffix (cs : List Char) : List Char := (word cs).getD cs

def character (f : Flavour) : Scan
  | '\\' :: rest =>
    match escape f rest with
    | some (_, '\'' :: rest) => some rest
    | _ => none
  | c :: '\'' :: rest => if f = .bytes ∧ 128 ≤ c.toNat then none else some rest
  | _ => none

def isDigitOrLine (c : Char) : Bool := c.isDigit || c == '_'

/-- The exponent of a number from behind its `e`. Without digits it is no exponent, and `before` tells
what is left then. -/
def exponent (before : Option (List Char)) (signed valued : Bool) : Scan
  | [] => if valued then some [] else before
  | c :: rest =>
    if c = '+' ∨ c = '-' then
      if valued then some (c :: rest) else if signed then before
      else exponent before true valued rest
    else if c.isDigit then exponent before signed true rest
    else if c = '_' then exponent before signed valued rest
    else if valued then some (c :: rest) else before

def afterExponent (fractional : Bool) (cs : List Char) : Option (List Char) :=
  let before := if fractional then some cs else none
  match cs with
  | 'e' :: rest => exponent before false false rest
  | 'E' :: rest => exponent before false false rest
  | _ => before

/-- A number with a point or an exponent. A point that begins a range or a field is not part of it. -/
def float (cs : List Char) : Option (List Char) :=
  if !cs.head?.any Char.isDigit then none
  else
    match cs.dropWhile isDigitOrLine with
    | '.' :: rest =>
      if rest.head?.any fun c => c == '.' || CharClass.isIdentifierStart c then none
      else afterExponent true (rest.dropWhile isDigitOrLine)
    | rest => afterExponent false rest

def wholeDigits (base : Nat) (blank : Bool) : Scan
  | [] => if blank then none else some []
  | c :: rest =>
    if c = '_' then if blank && base == 10 then none else wholeDigits base blank rest
    else
      match hexValue? c with
      | some d =>
        if d < base then wholeDigits base false rest
        else if c.isDigit then none
        else if blank then none else some (c :: rest)
      | none => if blank then none else some (c :: rest)

def whole : Scan
  | '0' :: 'x' :: rest => wholeDigits 16 true rest
  | '0' :: 'o' :: rest => wholeDigits 8 true rest
  | '0' :: 'b' :: rest => wholeDigits 2 true rest
  | cs => wholeDigits 10 true cs

/-- A number's end: a suffix may follow, but nothing else that continues a word. -/
def afterNumber (cs : List Char) : Option (List Char) :=
  let rest := afterSuffix cs
  if rest.head?.any CharClass.isIdentifierContinue then none else some rest

def scan (cs : List Char) : Option (List Char) :=
  match quoted cs with
  | some (_, _, rest) => some (afterSuffix rest)
  | none =>
    let characters := match cs with
      | 'b' :: '\'' :: rest => character .bytes rest
      | '\'' :: rest => character .text rest
      | _ => none
    match characters with
    | some rest => some (afterSuffix rest)
    | none =>
      match (float cs).bind afterNumber with
      | some rest => some rest
      | none => (whole cs).bind afterNumber

def isNumber (literal : List Char) : Bool := literal.head?.any Char.isDigit

def digitsValue? (base : Nat) (cs : List Char) : Option (Nat × List Char) :=
  let belongs (c : Char) : Bool := c == '_' || (hexValue? c).any (· < base)
  let digits := (cs.takeWhile belongs).filterMap hexValue?
  if digits.isEmpty then none
  else some (digits.foldl (fun n d => base * n + d) 0, cs.dropWhile belongs)

def hasExponent : List Char → Bool
  | 'e' :: rest => (rest.dropWhile (· == '_')).head?.any fun c => c.isDigit || c == '+' || c == '-'
  | 'E' :: rest => (rest.dropWhile (· == '_')).head?.any fun c => c.isDigit || c == '+' || c == '-'
  | _ => false

/-- The value and the suffix of a literal that is a whole number. -/
def wholeNumber? : List Char → Option (Nat × List Char)
  | '0' :: 'x' :: rest => digitsValue? 16 rest
  | '0' :: 'o' :: rest => digitsValue? 8 rest
  | '0' :: 'b' :: rest => digitsValue? 2 rest
  | cs =>
    if isNumber cs then
      (digitsValue? 10 cs).filter fun (_, rest) => rest.head? != some '.' && !hasExponent rest
    else none

def index? (literal : List Char) : Option Nat :=
  match wholeNumber? literal with
  | some (n, []) => if n < 4294967296 then some n else none
  | _ => none

def textContent? (literal : List Char) : Option (List Char) :=
  match quoted literal with
  | some (.text, content, _) => some content
  | _ => none

end RecordMapper.Declaration.Literal
