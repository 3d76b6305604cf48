/-!
# Decimal numerals

Writing whole numbers in base ten without leading zeros (`digits`, `ofInt`),
and reading them back: `natOf` reads a run of ASCII digits, leading zeros
allowed, and `signed` admits one sign in front.
-/

namespace RingOperator.Text.Numeral

/-- The digit character of a number below ten. -/
def digitChar (n : Nat) : Char := Char.ofNat (48 + n)

/-- The value of a digit character. -/
def digitValue (c : Char) : Nat := c.toNat - 48

/-- The base-ten digits of a number, most significant first. -/
def digits (n : Nat) : List Char :=
  if n < 10 then [digitChar n] else digits (n / 10) ++ [digitChar (n % 10)]
termination_by n
decreasing_by omega

/-- The number that a list of digit characters stands for. -/
def value (cs : List Char) : Nat := cs.foldl (fun n c => 10 * n + digitValue c) 0

/-- The number written by a non-empty run of ASCII digits. -/
def natOf (cs : List Char) : Option Nat :=
  if cs ≠ [] ∧ cs.all Char.isDigit then some (value cs) else none

/-- The number written by ASCII digits behind an optional sign. -/
def signed : List Char → Option Int
  | '-' :: cs => (natOf cs).map fun n => -(n : Int)
  | '+' :: cs => (natOf cs).map fun n => (n : Int)
  | cs => (natOf cs).map fun n => (n : Int)

/-- The decimal text of a natural number. -/
def ofNat (n : Nat) : String := String.ofList (digits n)

/-- The decimal text of an integer: a minus sign, if any, and the digits. -/
def ofInt : Int → String
  | .ofNat n => ofNat n
  | .negSucc n => "-" ++ ofNat (n + 1)

/-- A natural number in at least `width` digits, zeros in front. -/
def padded (width n : Nat) : String :=
  let ds := digits n
  String.ofList (List.replicate (width - ds.length) '0' ++ ds)

/-- The hexadecimal digits of a number, most significant first, in lower case. -/
def hexDigits (n : Nat) : List Char :=
  if n < 16 then [Nat.digitChar n] else hexDigits (n / 16) ++ [Nat.digitChar (n % 16)]
termination_by n
decreasing_by omega

end RingOperator.Text.Numeral
