/-!
# `MapBench.Number.Binary64`: rounding to double precision

Seconds and byte sizes are computed in double precision. A
non-negative finite double is a natural significand times a power of
two, so everything here is exact arithmetic on `Nat` with one
rounding rule at the end: to nearest, and a tie goes to the even
neighbour.

* `roundHalfEven`: a quotient to the nearest whole number.
* `Binary64.nearest?`: a quotient to the nearest double, `none` when
  that would be infinite.
-/

set_option autoImplicit false

namespace MapBench

/-- The whole number nearest to `num / den`; of two equally near
ones, the even one. -/
def roundHalfEven (num den : Nat) : Nat :=
  let q := num / den
  let twice := 2 * (num % den)
  if twice < den then q
  else if den < twice then q + 1
  -- A tie: an odd quotient has its even neighbour above it.
  else q + q % 2

/-- A non-negative finite double: `significand * 2 ^ exponent`. -/
structure Binary64 where
  significand : Nat
  exponent : Int
  deriving Repr, DecidableEq

namespace Binary64

/-- Numerator of the exact value. -/
def numerator (x : Binary64) : Nat :=
  x.significand * Nat.pow 2 x.exponent.toNat

/-- Denominator of the exact value, a power of two. -/
def denominator (x : Binary64) : Nat :=
  Nat.pow 2 (-x.exponent).toNat

/-- Is the value zero? -/
def isZero (x : Binary64) : Bool :=
  x.significand == 0

/-- The exponent with which the significand of `num / den` has 53
bits, or the least exponent there is when that would be smaller. -/
def exponentFor (num den : Nat) : Int :=
  let guess : Int := (num.log2 : Int) - den.log2 - 52
  -- The lengths of the two numbers tell the exponent, or one too many.
  let short := num * Nat.pow 2 (-guess).toNat < den * Nat.pow 2 guess.toNat * 0x10000000000000
  max (-1074) (if short then guess - 1 else guess)

/-- The double nearest to `num / den`, ties to the even significand.
`none` stands for infinity: the quotient rounds past the largest
finite double. -/
def nearest? (num den : Nat) : Option Binary64 :=
  if num = 0 then
    some ⟨0, 0⟩
  else
    let e := exponentFor num den
    let m := roundHalfEven (num * Nat.pow 2 (-e).toNat) (den * Nat.pow 2 e.toNat)
    -- A significand of 54 bits comes from rounding up and is a power of two, so it is
    -- a double of the next exponent unless there is none.
    if 971 < e ∨ (e = 971 ∧ 0x20000000000000 ≤ m) then none else some ⟨m, e⟩

/-- The double nearest to `num / den`, for quotients known to be far
below the largest double. -/
def nearest (num den : Nat) : Binary64 :=
  (nearest? num den).getD ⟨0, 0⟩

/-- The double nearest to a natural number. -/
def ofNat (n : Nat) : Binary64 :=
  nearest n 1

/-- Sum of two doubles, rounded. -/
def add (x y : Binary64) : Binary64 :=
  nearest (x.numerator * y.denominator + y.numerator * x.denominator)
    (x.denominator * y.denominator)

/-- Quotient of two doubles, rounded. -/
def div (x y : Binary64) : Binary64 :=
  nearest (x.numerator * y.denominator) (x.denominator * y.numerator)

end Binary64

end MapBench
