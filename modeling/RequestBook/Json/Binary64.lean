/-!
Binary floating-point numbers with a 53-bit mantissa, computed exactly: a quotient of natural
numbers is rounded to the nearest number, a tie to the even mantissa.
-/

namespace RequestBook

/-- A finite number `±mantissa · 2 ^ exponent`. The mantissa has 53 bits, or the exponent is the
least one. -/
structure Binary64 where
  negative : Bool
  mantissa : Nat
  exponent : Int
  deriving DecidableEq

namespace Binary64

def leastExponent : Int := -1074

def greatestExponent : Int := 971

def leastNormal : Nat := 4503599627370496

def zero : Binary64 := ⟨false, 0, leastExponent⟩

def isZero (x : Binary64) : Bool :=
  x.mantissa == 0

def negate (x : Binary64) : Binary64 :=
  { x with negative := !x.negative }

def scale (n : Nat) (e : Int) : Nat × Nat :=
  if 0 ≤ e then (n * Nat.pow 2 e.toNat, 1) else (n, Nat.pow 2 (-e).toNat)

def roundDiv (num den : Nat) : Nat :=
  let q := num / den
  let r := num % den
  if 2 * r < den then q
  else if den < 2 * r then q + 1
  else if q % 2 = 0 then q else q + 1

def exponentOf (num den : Nat) : Int :=
  let guess : Int := Int.ofNat num.log2 - Int.ofNat den.log2 - 53
  let (n, d) := scale num (-guess)
  let exponent := if 2 * leastNormal ≤ n / (d * den) then guess + 1 else guess
  max exponent leastExponent

def ofQuotient? (num den : Nat) : Option Binary64 :=
  if num = 0 then some zero
  else
    let exponent := exponentOf num den
    let (n, d) := scale num (-exponent)
    let mantissa := roundDiv n (d * den)
    let (mantissa, exponent) :=
      if mantissa = 2 * leastNormal then (leastNormal, exponent + 1) else (mantissa, exponent)
    if greatestExponent < exponent then none else some ⟨false, mantissa, exponent⟩

def ofNat? (n : Nat) : Option Binary64 :=
  ofQuotient? n 1

def mul? (x y : Binary64) : Option Binary64 :=
  let (num, den) := scale (x.mantissa * y.mantissa) (x.exponent + y.exponent)
  ofQuotient? num den

def div? (x y : Binary64) : Option Binary64 :=
  let (num, den) := scale x.mantissa (x.exponent - y.exponent)
  ofQuotient? num (den * y.mantissa)

def tenTo? (n : Nat) : Option Binary64 :=
  ofNat? (Nat.pow 10 n)

def greatestPower : Nat := 308

def stepDown? (x : Binary64) : Option Binary64 :=
  (tenTo? greatestPower).bind x.div?

def timesTenTo? (x : Binary64) (exponent : Int) : Option Binary64 :=
  if exponent.natAbs ≤ greatestPower then
    (tenTo? exponent.natAbs).bind fun power =>
      if 0 ≤ exponent then x.mul? power else x.div? power
  else if x.isZero then some x
  else if 0 ≤ exponent then none
  else x.stepDown?.bind fun smaller => smaller.timesTenTo? (exponent + greatestPower)
termination_by (-exponent).toNat
decreasing_by
  simp only [greatestPower] at *
  omega

/-- The number that a decimal `significand · 10 ^ exponent` denotes: the significand is rounded
first, the power of ten after it. Nothing when it is too large. -/
def ofDecimal? (significand : Nat) (exponent : Int) : Option Binary64 :=
  (ofNat? significand).bind fun x => x.timesTenTo? exponent

end Binary64

end RequestBook
