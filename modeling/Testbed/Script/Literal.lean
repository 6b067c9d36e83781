/-!
# String literals of a script

Test data stands between double quotes. A backslash marks quotes, backslashes and the two line
ends, so that the literal stays on its line and ends at its own quote.
-/

namespace Testbed.Script

def escapeChar (c : Char) : List Char :=
  if c = '\\' then ['\\', '\\']
  else if c = '"' then ['\\', '"']
  else if c = '\n' then ['\\', 'n']
  else if c = '\r' then ['\\', 'r']
  else [c]

def escapeChars (s : List Char) : List Char := s.flatMap escapeChar

def escape (s : String) : String := String.ofList (escapeChars s.toList)

/-- Reads a literal after its opening quote, up to its closing one: the text it stands for and what
follows. A line end inside a literal is an error, as is a mark that stands for nothing. -/
def readLiteral : List Char → Option (List Char × List Char)
  | [] => none
  | '"' :: r => some ([], r)
  | '\\' :: '\\' :: r => (readLiteral r).map fun (t, s) => ('\\' :: t, s)
  | '\\' :: '"' :: r => (readLiteral r).map fun (t, s) => ('"' :: t, s)
  | '\\' :: 'n' :: r => (readLiteral r).map fun (t, s) => ('\n' :: t, s)
  | '\\' :: 'r' :: r => (readLiteral r).map fun (t, s) => ('\r' :: t, s)
  | '\\' :: _ => none
  | c :: r =>
    if c = '\n' ∨ c = '\r' then none else (readLiteral r).map fun (t, s) => (c :: t, s)

end Testbed.Script
