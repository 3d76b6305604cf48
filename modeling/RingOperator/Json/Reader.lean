import RingOperator.Json.Basic
import RingOperator.Text.Numeral

/-!
# Reading JSON texts

A strict reader: one value, surrounded by blanks at most. Raw control
characters in texts, numbers with a leading zero, comments, a mark in front of
the text and anything after the value are refused. An unpaired surrogate is not:
it makes the text, or the object of which it is in a name, `Json.broken`.

The reader takes a bound on the nesting from the length of the input, which no
input exceeds, so `read` itself has no bound.
-/

namespace RingOperator.Json

open RingOperator.Text

namespace Reader

/-- The four blanks of the format. -/
def isSpace (c : Char) : Bool := c = ' ' || c = '\n' || c = '\r' || c = '\t'

/-- The input after leading blanks. -/
def skip (input : List Char) : List Char := input.dropWhile isSpace

/-- The value of a hexadecimal digit. -/
def hexValue (c : Char) : Option Nat :=
  if '0' ≤ c ∧ c ≤ '9' then some (c.toNat - 48)
  else if 'a' ≤ c ∧ c ≤ 'f' then some (c.toNat - 87)
  else if 'A' ≤ c ∧ c ≤ 'F' then some (c.toNat - 55)
  else none

/-- The number of four hexadecimal digits. -/
def unit (a b c d : Char) : Option Nat := do
  return (((← hexValue a) * 16 + (← hexValue b)) * 16 + (← hexValue c)) * 16 + (← hexValue d)

/-- The character that a letter stands for behind a backslash. -/
def escaped : Char → Option Char
  | '"' => some '"'
  | '\\' => some '\\'
  | '/' => some '/'
  | 'b' => some '\x08'
  | 'f' => some '\x0c'
  | 'n' => some '\n'
  | 'r' => some '\r'
  | 't' => some '\t'
  | _ => none

/-- Whether a unit is the first half of a surrogate pair. -/
def isHigh (n : Nat) : Bool := 0xD800 ≤ n && n < 0xDC00

/-- Whether a unit is the second half of a surrogate pair. -/
def isLow (n : Nat) : Bool := 0xDC00 ≤ n && n < 0xE000

/-- The rest of a text after its opening quote: its characters, `none` for an unpaired
surrogate, and the input after the closing quote. -/
def text : List Char → Option (List (Option Char) × List Char)
  | [] => none
  | '"' :: rest => some ([], rest)
  | '\\' :: 'u' :: a :: b :: c :: d :: '\\' :: 'u' :: e :: f :: g :: h :: rest => do
    let first ← unit a b c d
    let second ← unit e f g h
    if isHigh first && isLow second then
      let (cs, after) ← text rest
      return (some (Char.ofNat (0x10000 + (first - 0xD800) * 0x400 + (second - 0xDC00))) :: cs,
        after)
    else
      let (cs, after) ← text ('\\' :: 'u' :: e :: f :: g :: h :: rest)
      return ((if isHigh first || isLow first then none else some (Char.ofNat first)) :: cs, after)
  | '\\' :: 'u' :: a :: b :: c :: d :: rest => do
    let only ← unit a b c d
    let (cs, after) ← text rest
    return ((if isHigh only || isLow only then none else some (Char.ofNat only)) :: cs, after)
  | '\\' :: c :: rest => do
    let c ← escaped c
    let (cs, after) ← text rest
    return (some c :: cs, after)
  | c :: rest =>
    if c = '\\' || c.toNat < 0x20 then none
    else do
      let (cs, after) ← text rest
      return (some c :: cs, after)

/-- The text of scanned characters, if no surrogate is unpaired. -/
def paired : List (Option Char) → Option (List Char)
  | [] => some []
  | none :: _ => none
  | some c :: cs => (paired cs).map (c :: ·)

/-- The value of scanned characters. -/
def ofScanned (cs : List (Option Char)) : Json :=
  match paired cs with
  | some cs => .text (String.ofList cs)
  | none => .broken

/-- The object of fields whose names were scanned. -/
def ofFields (fields : List (List (Option Char) × Json)) : Json :=
  match fields.mapM fun (name, value) => (paired name).map fun cs => (String.ofList cs, value) with
  | some fields => .object fields
  | none => .broken

/-- The digits at the front of the input, and the rest. -/
def digits (input : List Char) : List Char × List Char := input.span Char.isDigit

/-- A point and its digits, if the input starts with a point. -/
def fraction : List Char → Option (List Char × List Char)
  | '.' :: rest =>
    let (ds, after) := digits rest
    if ds.isEmpty then none else some ('.' :: ds, after)
  | input => some ([], input)

/-- An exponent mark, an optional sign and digits, if the input starts with an exponent mark. -/
def exponent : List Char → Option (List Char × List Char)
  | [] => some ([], [])
  | e :: rest =>
    if e = 'e' || e = 'E' then
      let (sign, rest) := match rest with
        | '+' :: rest => (['+'], rest)
        | '-' :: rest => (['-'], rest)
        | rest => ([], rest)
      let (ds, after) := digits rest
      if ds.isEmpty then none else some (e :: (sign ++ ds), after)
    else some ([], e :: rest)

/-- A number without its sign: whole part, fraction and exponent. A whole part of several
digits does not start with zero. -/
def number (negative : Bool) (input : List Char) : Option (Json × List Char) := do
  let (whole, rest) := digits input
  if whole.isEmpty || (whole.length > 1 && whole.head? = some '0') then none
  else
    let (frac, rest) ← fraction rest
    let (expo, rest) ← exponent rest
    let sign := if negative then ['-'] else []
    if frac.isEmpty && expo.isEmpty && !(negative && whole = ['0']) then
      let n : Int := Numeral.value whole
      return (.integer (if negative then -n else n), rest)
    else
      return (.decimal (String.ofList (sign ++ whole ++ frac ++ expo)), rest)

mutual
/-- One value at the front of the input, and the rest. -/
def value : Nat → List Char → Option (Json × List Char)
  | 0, _ => none
  | fuel + 1, input =>
    match skip input with
    | 'n' :: 'u' :: 'l' :: 'l' :: rest => some (.null, rest)
    | 't' :: 'r' :: 'u' :: 'e' :: rest => some (.bool true, rest)
    | 'f' :: 'a' :: 'l' :: 's' :: 'e' :: rest => some (.bool false, rest)
    | '"' :: rest => do
      let (cs, rest) ← text rest
      return (ofScanned cs, rest)
    | '[' :: rest =>
      match skip rest with
      | ']' :: rest => some (.array [], rest)
      | rest => do
        let (items, rest) ← items fuel rest
        return (.array items, rest)
    | '{' :: rest =>
      match skip rest with
      | '}' :: rest => some (.object [], rest)
      | rest => do
        let (fields, rest) ← fields fuel rest
        return (ofFields fields, rest)
    | '-' :: rest => number true rest
    | rest => number false rest

/-- Items separated by commas, up to the closing bracket. -/
def items : Nat → List Char → Option (List Json × List Char)
  | 0, _ => none
  | fuel + 1, input => do
    let (item, rest) ← value fuel input
    match skip rest with
    | ']' :: rest => return ([item], rest)
    | ',' :: rest =>
      let (more, rest) ← items fuel rest
      return (item :: more, rest)
    | _ => none

/-- Named values separated by commas, up to the closing brace. -/
def fields : Nat → List Char → Option (List (List (Option Char) × Json) × List Char)
  | 0, _ => none
  | fuel + 1, input =>
    match skip input with
    | '"' :: rest => do
      let (name, rest) ← text rest
      match skip rest with
      | ':' :: rest =>
        let (item, rest) ← value fuel rest
        match skip rest with
        | '}' :: rest => return ([(name, item)], rest)
        | ',' :: rest =>
          let (more, rest) ← fields fuel rest
          return ((name, item) :: more, rest)
        | _ => none
      | _ => none
    | _ => none
end

end Reader

/-- The value written by a text, or nothing if the text is not exactly one value. -/
def read (input : String) : Option Json :=
  match Reader.value (2 * input.length + 2) input.toList with
  | some (value, rest) => if (Reader.skip rest).isEmpty then some value else none
  | none => none

end RingOperator.Json
