import SqlFilter.Decimal.Basic
/-! The shortest decimal that reads back as a given binary float. A finite float is `m * 2 ^ q`; the
reals that round to it form an interval around it, and the answer is the point of the coarsest
decimal grid that meets this interval, the nearest one if there are two. -/
namespace SqlFilter.Decimal

/-- Which of two equally near grid points is taken. -/
inductive Tie
  | even
  | up
deriving DecidableEq, Repr

/-- The ratio `value / unit`, with bounds `low / unit` and `high / unit` on what rounds to it. -/
structure Interval where
  low : Nat
  value : Nat
  high : Nat
  unit : Nat
  closed : Bool
deriving Repr

/-- The bounds are halfway to the neighbours, and belong to the interval when the mantissa is even.
Below a power of two the neighbour is only half as far, unless the exponent is already the least. -/
def Binary.interval (b : Binary) : Interval :=
  let below := if b.mantissa = Nat.pow 2 52 ∧ -1074 < b.exponent then 1 else 2
  let scale := Nat.pow 2 (b.exponent - 2).toNat
  ⟨(4 * b.mantissa - below) * scale, 4 * b.mantissa * scale, (4 * b.mantissa + 2) * scale,
    Nat.pow 2 (2 - b.exponent).toNat, b.mantissa % 2 = 0⟩

/-- Whether `num / den` lies in the interval. -/
def Interval.contains (i : Interval) (num den : Nat) : Bool :=
  let x := num * i.unit
  if i.closed then i.low * den ≤ x ∧ x ≤ i.high * den
  else i.low * den < x ∧ x < i.high * den

/-- The grid point of step `10 ^ k` that is nearest to the value among those in the interval. -/
def Interval.gridPoint? (tie : Tie) (i : Interval) (k : Int) : Option Nat :=
  let step := Nat.pow 10 k.toNat
  let den := Nat.pow 10 (-k).toNat
  let d := i.value * den / (i.unit * step)
  let down := 0 < d && i.contains (d * step) den
  let up := i.contains ((d + 1) * step) den
  let twice := 2 * (i.value * den - d * step * i.unit)
  let roundUp := i.unit * step < twice ||
    (twice == i.unit * step && (tie == .up || d % 2 == 1))
  if down && up then some (if roundUp then d + 1 else d)
  else if up then some (d + 1)
  else if down then some d
  else none

/-- Tries ever finer grids; at most `fuel` of them. -/
def Interval.search (tie : Tie) (i : Interval) : Nat → Int → Scaled
  | 0, k => ⟨i.value / i.unit, k⟩
  | fuel + 1, k =>
    match i.gridPoint? tie k with
    | some d => ⟨d, k⟩
    | none => i.search tie fuel (k - 1)

/-- An exponent of ten no less than that of the magnitude: `30103 / 100000` exceeds `log 2`. -/
def Binary.decimalExponentBound (b : Binary) : Int :=
  ((Nat.log2 b.mantissa : Int) + 1 + b.exponent) * 30103 / 100000 + 2

/-- The shortest decimal for a nonzero magnitude. Seventeen digits always suffice, so the search
ends within its twenty-four steps. -/
def Binary.shortest (tie : Tie) (b : Binary) : Scaled :=
  b.interval.search tie 24 b.decimalExponentBound

end SqlFilter.Decimal
