import ResourceInference.Text.Class

/-!
# Text in quotes, all of it visible

A text between double quotes in which no character is invisible: line breaks, quotes and
backslashes are escaped, and what is not printable, or would be drawn onto the character before
it, is written as its code point.
-/

set_option autoImplicit false

namespace ResourceInference.Text

/-- The digits of a number in radix sixteen. -/
def hexDigits (n : Nat) : List Char := Nat.toDigits 16 n

/-- A character as its code point. -/
def codePoint (c : Char) : List Char := ['\\', 'u', '\x7b'] ++ hexDigits c.toNat ++ ['\x7d']

/-- A character inside quotes. -/
def visible (c : Char) : List Char :=
  if c = '"' then ['\\', '"']
  else if c = '\\' then ['\\', '\\']
  else if c = '\n' then ['\\', 'n']
  else if c = '\r' then ['\\', 'r']
  else if c = '\t' then ['\\', 't']
  else if c.toNat = 0 then ['\\', '0']
  else if isPrintable c && !isGraphemeExtend c then [c]
  else codePoint c

/-- A text in quotes. -/
def quoteVisible (s : String) : String :=
  String.ofList ('"' :: s.toList.flatMap visible ++ ['"'])

end ResourceInference.Text
