import RecordMapper.Text.CharClass
/-!
# Escaped text

Text between double quotes with escapes, in two uses: diagnostics (`shown`), and string tokens of
generated code (`token`). They differ in how a NUL is written: before an octal digit a token spells
it `\x00`, since `\0` with a digit behind it would read as a longer escape.
-/

namespace RecordMapper.Escaped

def codePoint (c : Char) : List Char :=
  '\\' :: 'u' :: '\x7b' :: (Nat.toDigits 16 c.toNat ++ ['\x7d'])

/-- A character inside quotes of kind `quote`: control characters and hidden characters are escaped,
and so are the backslash and the quote itself. -/
def char (quote c : Char) : List Char :=
  if c = '\x00' then ['\\', '0']
  else if c = '\t' then ['\\', 't']
  else if c = '\r' then ['\\', 'r']
  else if c = '\n' then ['\\', 'n']
  else if c = '\\' ∨ c = quote then ['\\', c]
  else if CharClass.isHidden c then codePoint c
  else [c]

def shown (s : String) : String :=
  String.ofList ('"' :: (s.toList.flatMap (char '"') ++ ['"']))

/-- Text as a diagnostic shows it where single quotes are escaped as well. -/
def quoted (s : String) : String :=
  let escaped (c : Char) : List Char := if c = '\'' then ['\\', c] else char '"' c
  String.ofList ('"' :: (s.toList.flatMap escaped ++ ['"']))

def shownChar (c : Char) : String :=
  String.ofList ('\'' :: (char '\'' c ++ ['\'']))

def isOctalDigit (c : Char) : Bool := '0' ≤ c && c ≤ '7'

def content : List Char → List Char
  | [] => []
  | c :: rest =>
    if c = '\x00' && rest.head?.any isOctalDigit then '\\' :: 'x' :: '0' :: '0' :: content rest
    else char '"' c ++ content rest

def token (s : String) : String :=
  String.ofList ('"' :: (content s.toList ++ ['"']))

end RecordMapper.Escaped
