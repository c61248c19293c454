import PulseBridge.Text.Hidden

/-!
# Quoted texts

A text between quotes in which every character can be seen: quotes and backslashes are preceded by
a backslash, the common controls have a letter, and anything else without a visible form is
written as its code point in hexadecimal.
-/

namespace PulseBridge.Text

/-- The code point of a character in lower-case hexadecimal, in braces. -/
def codePointEscape (c : Char) : List Char :=
  "\\u\x7b".toList ++ Nat.toDigits 16 c.toNat ++ ['\x7d']

/-- One character of a quoted text. -/
def quotedChar (c : Char) : List Char :=
  if c == '"' then ['\\', '"']
  else if c == '\\' then ['\\', '\\']
  else if c == '\n' then ['\\', 'n']
  else if c == '\r' then ['\\', 'r']
  else if c == '\t' then ['\\', 't']
  else if c.toNat == 0 then ['\\', '0']
  else if isHidden c then codePointEscape c
  else [c]

/-- The text between quotes, with every character visible. -/
def quoted (s : String) : String :=
  String.ofList ('"' :: s.toList.flatMap quotedChar ++ ['"'])

end PulseBridge.Text
