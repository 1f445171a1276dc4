import MapBench.Number.Binary64
import MapBench.Number.Decimal

/-!
# `MapBench.Number.Fixed`: a fixed number of decimal places

Quantities are shown with a fixed number of places. The exact value
is rounded once, to the nearest multiple of the last place, and a
tie goes to the even neighbour.
-/

set_option autoImplicit false

namespace MapBench

/-- `num / den` with `places` digits after the point. -/
def fixed (places num den : Nat) : List Char :=
  let unit := Nat.pow 10 places
  let scaled := roundHalfEven (num * unit) den
  Decimal.digits (scaled / unit) ++ '.' :: Decimal.padded places (scaled % unit)

/-- The exact value of a double with `places` digits after the
point. -/
def Binary64.fixed (places : Nat) (x : Binary64) : List Char :=
  MapBench.fixed places x.numerator x.denominator

end MapBench
