import SqlFilter.Decimal.Basic
/-! The binary float nearest to a ratio, with ties to the even mantissa, and the arithmetic of floats
that follows from it. All of it is on naturals, so each result is rounded once and exactly. -/
namespace SqlFilter.Decimal

/-- `num / den` rounded to an integer; of two equally near ones the even one. -/
def roundHalfEven (num den : Nat) : Nat :=
  let q := num / den
  let twice := 2 * (num % den)
  if den < twice || (twice == den && q % 2 == 1) then q + 1 else q

/-- `num / (den * 2 ^ e)` rounded to an integer. -/
def roundScaled (num den : Nat) (e : Int) : Nat :=
  roundHalfEven (num * Nat.pow 2 (-e).toNat) (den * Nat.pow 2 e.toNat)

/-- The exponent of the last mantissa bit of the float nearest to `num / den`. -/
def lastPlace (num den : Nat) : Int :=
  let e := max (-1074) ((Nat.log2 num : Int) - Nat.log2 den - 53)
  if Nat.pow 2 53 * (den * Nat.pow 2 e.toNat) ≤ num * Nat.pow 2 (-e).toNat then e + 1 else e

/-- The magnitude nearest to `num / den`, none when it rounds to infinity. -/
def nearest? (num den : Nat) : Option Binary :=
  if num = 0 then some ⟨0, -1074⟩
  else
    let e := lastPlace num den
    let b : Binary := ⟨roundScaled num den e, e⟩
    if b.bits < 2047 * Nat.pow 2 52 then some b else none

/-- The magnitude nearest to `num * 2 ^ e / den`. -/
def nearestScaled? (num den : Nat) (e : Int) : Option Binary :=
  nearest? (num * Nat.pow 2 e.toNat) (den * Nat.pow 2 (-e).toNat)

namespace Binary

/-- The product of two magnitudes, none beyond the finite floats. -/
def mul? (a b : Binary) : Option Binary :=
  nearestScaled? (a.mantissa * b.mantissa) 1 (a.exponent + b.exponent)

/-- The quotient of two magnitudes, none beyond the finite floats. -/
def div? (a b : Binary) : Option Binary :=
  nearestScaled? a.mantissa b.mantissa (a.exponent - b.exponent)

end Binary

/-- The float nearest to an integer, an infinity beyond the finite floats. -/
def ofInt (n : Int) : Float :=
  match nearest? n.natAbs 1 with
  | some b => b.toFloat (n < 0)
  | none => Float.ofBits (if n < 0 then 0xFFF0000000000000 else 0x7FF0000000000000)

end SqlFilter.Decimal
