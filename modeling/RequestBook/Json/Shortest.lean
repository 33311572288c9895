import RequestBook.Json.Binary64

namespace RequestBook.Binary64

/-- A positive decimal `0.digits · 10 ^ point`, the first and the last digit not zero. -/
structure Decimal where
  digits : List Char
  point : Int
  deriving DecidableEq

def countDigits (n : Nat) : Nat :=
  (Nat.toDigits 10 n).length

def magnitude (num den : Nat) : Int :=
  if den ≤ num then (countDigits (num / den) : Int) - 1
  else -(countDigits ((den + num - 1) / num - 1) : Int)

def compareScaled (n : Nat) (e : Int) (num den : Nat) : Ordering :=
  if 0 ≤ e then compare (n * Nat.pow 10 e.toNat * den) num
  else compare (n * den) (num * Nat.pow 10 (-e).toNat)

/-- The numbers that round to one number: the quarter steps below and above it, in units of
`2 ^ unit`, and whether the ends belong. -/
structure Interval where
  low : Nat
  center : Nat
  high : Nat
  unit : Int
  closed : Bool

def interval (x : Binary64) : Interval :=
  let below := if x.mantissa = leastNormal ∧ leastExponent < x.exponent then 1 else 2
  ⟨4 * x.mantissa - below, 4 * x.mantissa, 4 * x.mantissa + 2, x.exponent - 2,
    x.mantissa % 2 == 0⟩

def Interval.holds (i : Interval) (n : Nat) (e : Int) : Bool :=
  let (low, den) := scale i.low i.unit
  let (high, _) := scale i.high i.unit
  match compareScaled n e low den, compareScaled n e high den with
  | .lt, _ => false
  | _, .gt => false
  | .gt, .lt => true
  | _, _ => i.closed

def Interval.nearest? (i : Interval) (e : Int) : Option Nat :=
  let (num, den) := scale i.center i.unit
  let (num, den) :=
    if 0 ≤ e then (num, den * Nat.pow 10 e.toNat) else (num * Nat.pow 10 (-e).toNat, den)
  let below := num / den
  let candidates := [roundDiv num den, below, below + 1]
  candidates.find? fun n => 0 < n && i.holds n e

def significantDigits (n : Nat) : List Char :=
  ((Nat.toDigits 10 n).reverse.dropWhile (· == '0')).reverse

def shortest (x : Binary64) : Decimal :=
  let i := x.interval
  let (num, den) := scale i.center i.unit
  let top := magnitude num den
  let found := (List.range 17).findSome? fun (more : Nat) =>
    let e := top - more
    (i.nearest? e).map fun n => (n, e)
  let (n, e) := found.getD (num / den, 0)
  ⟨significantDigits n, e + countDigits n⟩

end RequestBook.Binary64
