/-!
# Base64

The standard alphabet with padding: three bytes are written as four characters.
Only what writing gives can be read: padding where it belongs, and no bits left
over that are not zero.
-/

namespace RingOperator.Text.Base64

/-- The sixty-four characters. -/
def alphabet : List Char :=
  "ABCDEFGHIJKLMNOPQRSTUVWXYZabcdefghijklmnopqrstuvwxyz0123456789+/".toList

/-- The character of a number below sixty-four. -/
def character (n : Nat) : Char := alphabet.getD (n % 64) 'A'

/-- The characters of bytes. -/
def ofBytes : List Nat → List Char
  | [] => []
  | [a] => [character (a / 4), character (a % 4 * 16), '=', '=']
  | [a, b] =>
    [character (a / 4), character (a % 4 * 16 + b / 16), character (b % 16 * 4), '=']
  | a :: b :: c :: rest =>
    character (a / 4) :: character (a % 4 * 16 + b / 16) ::
      character (b % 16 * 4 + c / 64) :: character (c % 64) :: ofBytes rest

/-- The characters of a text, by its bytes. -/
def ofText (s : String) : String :=
  String.ofList (ofBytes (s.toUTF8.toList.map UInt8.toNat))

/-- The number of a character. -/
def number? (c : Char) : Option Nat := alphabet.idxOf? c

/-- The bytes that characters write. -/
def toBytes? : List Char → Option (List Nat)
  | [] => some []
  | [a, b, '=', '='] => do
    let x ← number? a
    let y ← number? b
    if y % 16 = 0 then some [x * 4 + y / 16] else none
  | [a, b, c, '='] => do
    let x ← number? a
    let y ← number? b
    let z ← number? c
    if z % 4 = 0 then some [x * 4 + y / 16, y % 16 * 16 + z / 4] else none
  | a :: b :: c :: d :: rest => do
    let x ← number? a
    let y ← number? b
    let z ← number? c
    let w ← number? d
    let bytes ← toBytes? rest
    some ([x * 4 + y / 16, y % 16 * 16 + z / 4, z % 4 * 64 + w] ++ bytes)
  | _ => none

end RingOperator.Text.Base64
