import SqlFilter.Decimal.Shortest
/-! How the shortest decimal of a float is laid out as text. -/
namespace SqlFilter.Decimal

/-- The choices that tell one way of writing floats from another. -/
structure Style where
  /-- The exponents, least and greatest, of the numbers written without an exponent part; all of
  them when there are no bounds. The exponent of `d.ddd * 10 ^ e` is `e`. -/
  positional : Option (Int × Int)
  /-- Whether a whole number without an exponent part ends in `.0`. -/
  wholePoint : Bool
  tie : Tie
  notANumber : String
  infinity : String
  negativeInfinity : String
deriving DecidableEq

/-- Digits with the point after the first `point` of them, zeros filled in on either side. -/
def placePoint (wholePoint : Bool) (digits : List Char) (point : Int) : List Char :=
  if point ≤ 0 then '0' :: '.' :: (List.replicate (-point).toNat '0' ++ digits)
  else if digits.length ≤ point.toNat then
    digits ++ List.replicate (point.toNat - digits.length) '0' ++
      (if wholePoint then ['.', '0'] else [])
  else digits.take point.toNat ++ '.' :: digits.drop point.toNat

/-- One digit, the others after a point, and the exponent with its sign. -/
def withExponent (digits : List Char) (exponent : Int) : List Char :=
  let fraction := digits.tail
  digits.take 1 ++ (if fraction.isEmpty then [] else '.' :: fraction) ++
    'e' :: (if exponent < 0 then '-' else '+') :: Nat.toDigits 10 exponent.natAbs

namespace Style

def magnitudeText (style : Style) (d : Scaled) : List Char :=
  let digits := Nat.toDigits 10 d.digits
  let exponent : Int := d.exponent + digits.length - 1
  let isPositional := match style.positional with
    | none => true
    | some (least, greatest) => least ≤ exponent ∧ exponent ≤ greatest
  if isPositional then placePoint style.wholePoint digits (exponent + 1)
  else withExponent digits exponent

def decodedText (style : Style) : Decoded → String
  | .notANumber => style.notANumber
  | .infinite false => style.infinity
  | .infinite true => style.negativeInfinity
  | .finite negative m =>
    let d : Scaled := if m.mantissa = 0 then ⟨0, 0⟩ else m.shortest style.tie
    String.ofList ((if negative then ['-'] else []) ++ style.magnitudeText d)

/-- The text of a float. -/
def text (style : Style) (x : Float) : String :=
  style.decodedText (decode x.toBits)

end Style

/-- Numbers from `0.00001` up to, but not including, `10 ^ 16` have no exponent part, a point always
marks a float, and a half goes to the even digit. What is no number is `null`. -/
def jsonStyle : Style :=
  ⟨some (-5, 15), true, .even, "null", "null", "null"⟩

/-- No number has an exponent part, whole numbers have no point, and a half goes up. -/
def plainStyle : Style :=
  ⟨none, false, .up, "NaN", "inf", "-inf"⟩

end SqlFilter.Decimal
