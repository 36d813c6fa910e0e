/-! Numbers as the parts of their written forms: decimal digits with a power of ten, and the mantissa
with a power of two that the bits of a float hold. -/
namespace SqlFilter.Decimal

/-- The value of a decimal digit. -/
def digitValue (d : Char) : Nat := d.toNat - 48

/-- The value of a run of decimal digits. -/
def digitsValue (ds : List Char) : Nat :=
  ds.foldl (fun n d => 10 * n + digitValue d) 0

/-- The number `digits * 10 ^ exponent`. -/
structure Scaled where
  digits : Nat
  exponent : Int
deriving DecidableEq, Repr, Inhabited

/-- A finite float without its sign, `mantissa * 2 ^ exponent`. -/
structure Binary where
  mantissa : Nat
  exponent : Int
deriving DecidableEq, Repr

/-- The bits of a magnitude whose mantissa has fifty-three bits, or fewer at the least exponent. A
mantissa of `2 ^ 53` carries into the exponent field by itself. -/
def Binary.bits (b : Binary) : Nat :=
  (b.exponent + 1074).toNat * Nat.pow 2 52 + b.mantissa

/-- The float of a sign and a magnitude. -/
def Binary.toFloat (b : Binary) (negative : Bool) : Float :=
  Float.ofBits (UInt64.ofNat (if negative then Nat.pow 2 63 + b.bits else b.bits))

/-- A float as its bits say: a sign with a finite magnitude, an infinity, or no number. -/
inductive Decoded
  | finite (negative : Bool) (magnitude : Binary)
  | infinite (negative : Bool)
  | notANumber
deriving DecidableEq, Repr

/-- Reads the fields of the 64-bit layout: one sign bit, eleven of exponent, fifty-two of fraction. -/
def decode (bits : UInt64) : Decoded :=
  let n := bits.toNat
  let negative := decide (Nat.pow 2 63 ≤ n)
  let field : Nat := n / Nat.pow 2 52 % Nat.pow 2 11
  let fraction : Nat := n % Nat.pow 2 52
  if field = 2047 then
    if fraction = 0 then .infinite negative else .notANumber
  else if field = 0 then .finite negative ⟨fraction, -1074⟩
  else .finite negative ⟨Nat.pow 2 52 + fraction, (field : Int) - 1075⟩

end SqlFilter.Decimal
