import RingOperator.Json.Basic
import RingOperator.Table
import RingOperator.Text.Numeral

/-!
# Writing JSON texts

The compact form: no blanks, fields in the order in which the value holds
them. In a text only the quote, the backslash and the control characters are
escaped; five of the controls have a letter of their own.
-/

namespace RingOperator.Json

open RingOperator.Text

namespace Writer

/-- The spelling of one character inside a text. -/
def spell (c : Char) : List Char :=
  if c = '"' then ['\\', '"']
  else if c = '\\' then ['\\', '\\']
  else if c = '\n' then ['\\', 'n']
  else if c = '\r' then ['\\', 'r']
  else if c = '\t' then ['\\', 't']
  else if c = '\x08' then ['\\', 'b']
  else if c = '\x0c' then ['\\', 'f']
  else if c.toNat < 0x20 then
    ['\\', 'u', '0', '0', Nat.digitChar (c.toNat / 16), Nat.digitChar (c.toNat % 16)]
  else [c]

/-- A text between quotes. -/
def text (s : String) : List Char := '"' :: (s.toList.flatMap spell ++ ['"'])

mutual
/-- The characters of a value. -/
def value : Json → List Char
  | null => ['n', 'u', 'l', 'l']
  | bool true => ['t', 'r', 'u', 'e']
  | bool false => ['f', 'a', 'l', 's', 'e']
  | integer n => (Numeral.ofInt n).toList
  | decimal spelling => spelling.toList
  | .text s => text s
  | broken => ['n', 'u', 'l', 'l']
  | array [] => ['[', ']']
  | array (item :: more) => '[' :: (value item ++ items more)
  | object [] => ['{', '}']
  | object ((name, item) :: more) => '{' :: (text name ++ ':' :: (value item ++ fields more))

/-- The items after the first, and the closing bracket. -/
def items : List Json → List Char
  | [] => [']']
  | item :: more => ',' :: (value item ++ items more)

/-- The fields after the first, and the closing brace. -/
def fields : List (String × Json) → List Char
  | [] => ['}']
  | (name, item) :: more => ',' :: (text name ++ ':' :: (value item ++ fields more))
end

end Writer

/-- The compact text of a value. -/
def write (value : Json) : String := String.ofList (Writer.value value)

mutual
/-- The value with the fields of every object in the order of their names; of repeated fields
the last one stays. -/
def arranged : Json → Json
  | array items => array (arrangedItems items)
  | object fields => object (Table.ofList (arrangedFields fields)).entries
  | other => other

/-- Every item arranged. -/
def arrangedItems : List Json → List Json
  | [] => []
  | item :: items => arranged item :: arrangedItems items

/-- Every value arranged, the names in their order. -/
def arrangedFields : List (String × Json) → List (String × Json)
  | [] => []
  | (name, value) :: fields => (name, arranged value) :: arrangedFields fields
end

end RingOperator.Json
