import BuildOrder.Text.Hidden

/-!
# Strings in diagnostics

A diagnostic shows a string in quotes, with every character that could not be seen written out.
-/

namespace BuildOrder.Text

/-- A code point in braces, in base sixteen. -/
def braced (c : Char) : List Char := '\\' :: 'u' :: '\x7b' :: Nat.toDigits 16 c.toNat ++ ['\x7d']

/-- How a character is shown in a quoted diagnostic. -/
def shown (c : Char) : List Char :=
  if c = '\x00' then ['\\', '0']
  else if c = '\t' then ['\\', 't']
  else if c = '\r' then ['\\', 'r']
  else if c = '\n' then ['\\', 'n']
  else if c = '"' then ['\\', '"']
  else if c = '\\' then ['\\', '\\']
  else if isHidden c then braced c
  else [c]

/-- A string in quotes, every character visible. -/
def visible (s : String) : String := String.ofList ('"' :: s.toList.flatMap shown ++ ['"'])

end BuildOrder.Text
