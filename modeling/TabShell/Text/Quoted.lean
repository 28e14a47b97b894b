import TabShell.Text.Shapeless
/-!
# Quoted text

A text between quotation marks, on one line and readable whatever it holds: the quotation mark and
the backslash get a backslash, four controls have a short escape, every other shapeless character
is given by its code point in hexadecimal.

* `quotedChar c`   the written form of one character;
* `quoted s`       the whole, with its marks;
* `quotedList ss`  a list of them in brackets.
-/

namespace TabShell.Text

/-- lower-case hexadecimal digits, without leading zeros -/
def hexadecimal (n : Nat) : List Char := Nat.toDigits 16 n

/-- the written form of a character -/
def quotedChar (c : Char) : List Char :=
  if c = '"' then ['\\', '"']
  else if c = '\\' then ['\\', '\\']
  else if c = '\t' then ['\\', 't']
  else if c = '\r' then ['\\', 'r']
  else if c = '\n' then ['\\', 'n']
  else if c = '\x00' then ['\\', '0']
  else if isShapeless c then ['\\', 'u', '\x7b'] ++ hexadecimal c.toNat ++ ['\x7d']
  else [c]

/-- a text between its marks -/
def quoted (s : String) : String :=
  String.ofList ('"' :: s.toList.flatMap quotedChar ++ ['"'])

/-- texts in brackets -/
def quotedList (ss : List String) : String :=
  "[" ++ ", ".intercalate (ss.map quoted) ++ "]"

end TabShell.Text
