import RingOperator.Text.Numeral
import RingOperator.Text.Shown

/-!
# Quoted text in messages

A text inside a message stands between double quotes. A quote and a backslash
take a backslash, the tab, the line ends and the null character have a letter,
and any other character that is not shown as it stands is written by its code
point. A single quote needs no escape.
-/

namespace RingOperator.Text.Quoted

/-- The spelling of one character between the quotes. -/
def spell (c : Char) : List Char :=
  if c = '"' then ['\\', '"']
  else if c = '\\' then ['\\', '\\']
  else if c = '\n' then ['\\', 'n']
  else if c = '\r' then ['\\', 'r']
  else if c = '\t' then ['\\', 't']
  else if c.toNat = 0 then ['\\', '0']
  else if isShown c then [c]
  else ['\\', 'u', '{'] ++ Numeral.hexDigits c.toNat ++ ['}']

/-- The text between braces. -/
def braced (s : String) : String := String.ofList ('{' :: (s.toList ++ ['}']))

/-- The text between double quotes, each character spelled out. -/
def quote (s : String) : String :=
  String.ofList ('"' :: (s.toList.flatMap spell ++ ['"']))

end RingOperator.Text.Quoted
