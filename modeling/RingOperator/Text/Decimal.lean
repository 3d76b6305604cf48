import RingOperator.Text.Numeral

/-!
# Spelled numbers

A number spelled in decimal, with a sign, a fraction and an exponent if it has
them, as the nearest binary number, and whether there is one.
-/

namespace RingOperator.Text.Decimal

/-- The parts of a spelled number: whether it has a sign, its digits without the point, and the
power of ten by which they are multiplied. -/
def parts (spelling : String) : Bool × List Char × Int :=
  let (sign, unsigned) := spelling.toList.span (· = '-')
  let (mantissa, exponent) := unsigned.span fun c => c ≠ 'e' && c ≠ 'E'
  let (whole, fraction) := mantissa.span (· ≠ '.')
  (!sign.isEmpty, whole ++ fraction.drop 1,
    (Numeral.signed (exponent.drop 1)).getD 0 - (fraction.drop 1).length)

/-- The number nearest to a spelled one. -/
def value (spelling : String) : Float :=
  let (negative, digits, shift) := parts spelling
  let size := Float.ofScientific (Numeral.value digits) (shift < 0) shift.natAbs
  if negative then -size else size

/-- The least size that is rounded to no finite binary number of 64 bits. -/
def excess : Nat := Nat.pow 2 1024 - Nat.pow 2 970

/-- Whether a finite binary number is nearest to a spelled one. No power is taken that is greater
than its digits call for. -/
def isFinite (spelling : String) : Bool :=
  let (_, digits, shift) := parts spelling
  let size := Numeral.value digits
  if shift < 0 then size < excess * Nat.pow 10 (min shift.natAbs digits.length)
  else size = 0 || (shift ≤ 308 && size * Nat.pow 10 shift.natAbs < excess)

end RingOperator.Text.Decimal
