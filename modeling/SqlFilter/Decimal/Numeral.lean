import SqlFilter.Decimal.Nearest
/-! Numbers as they are written, and the floats that they are read as. Reading is quick rather than
exact: digits that do not fit into sixty-four bits are left out, the others become a float, and that
is multiplied or divided by a power of ten. So a numeral of up to fifteen digits with a small power
of ten is read as the float nearest to it, and others may miss it by a little. -/
namespace SqlFilter.Decimal

/-- Appends digits to a number as long as it stays within sixty-four bits; the others are left. -/
def appendDigits (n : Nat) : List Char → Nat × List Char
  | [] => (n, [])
  | d :: ds =>
    let next := 10 * n + digitValue d
    if next < UInt64.size then appendDigits next ds else (n, d :: ds)

/-- A sign, the digits before and after the point, and an exponent, if there is one. -/
structure Numeral where
  negative : Bool
  whole : List Char
  fraction : List Char
  exponent : Option Int
deriving DecidableEq, Repr

/-- The greatest power of ten that is a finite float. -/
def maxPowerOfTen : Nat := 308

/-- The float nearest to a power of ten. -/
def powerOfTen? (k : Nat) : Option Binary :=
  nearest? (Nat.pow 10 k) 1

/-- A magnitude times `10 ^ k`, in one step, none beyond the finite floats. -/
def Binary.raise? (b : Binary) (k : Nat) : Option Binary :=
  if b.mantissa = 0 then some b
  else if maxPowerOfTen < k then none
  else (powerOfTen? k).bind b.mul?

/-- A magnitude by `10 ^ k`, in steps that are as large as can be. -/
def Binary.lower? (b : Binary) (k : Nat) : Option Binary :=
  if b.mantissa = 0 then some b
  else if k ≤ maxPowerOfTen then (powerOfTen? k).bind b.div?
  else do
    let b ← (powerOfTen? maxPowerOfTen).bind b.div?
    b.lower? (k - maxPowerOfTen)
termination_by k
decreasing_by simp_all [maxPowerOfTen]; omega

/-- The magnitude that scaled digits are read as, none beyond the finite floats. -/
def Scaled.magnitude? (d : Scaled) : Option Binary := do
  let b ← nearest? d.digits 1
  if 0 ≤ d.exponent then b.raise? d.exponent.toNat else b.lower? (-d.exponent).toNat

namespace Numeral

/-- Whether it is written like an integer. -/
def isWhole (x : Numeral) : Bool :=
  x.fraction.isEmpty && x.exponent.isNone

/-- The value of the digits before the point, with the sign. -/
def wholeValue (x : Numeral) : Int :=
  if x.negative then -(digitsValue x.whole : Int) else digitsValue x.whole

/-- The digits that count. Those that are left out before the point still count as places. -/
def scaled (x : Numeral) : Scaled :=
  let (digits, wholeLeft) := appendDigits 0 x.whole
  let (digits, fractionLeft) := appendDigits digits x.fraction
  ⟨digits, x.exponent.getD 0 + wholeLeft.length + fractionLeft.length - x.fraction.length⟩

/-- The float that a numeral is read as, none beyond the finite floats. -/
def toFloat? (x : Numeral) : Option Float :=
  x.scaled.magnitude?.map (·.toFloat x.negative)

end Numeral
end SqlFilter.Decimal
