import MapBench.Number.Fixed

/-!
# `MapBench.ByteSize`: byte counts for people

Counts below a thousand are shown as they are. Larger ones get a
unit, and the number before it is the count over that unit's power
of a thousand, with one decimal place. The unit changes late: a
count moves on to the next one where it passes the power of 1024,
so `1000.0 KB` and `1048.6 KB` are shown as such.
-/

set_option autoImplicit false

namespace MapBench.ByteSize

/-- Where each unit after the first begins: just above the powers of
1024 from the second on, at the first count whose natural logarithm,
divided by 6.931471806, reaches the next whole number. -/
def thresholds : List Nat :=
  [1048577, 1073741826, 1099511629538, 1125899909097501, 1152921507377637248]

/-- Which power of a thousand a count is shown in, from 1 to 6. -/
def unitIndex (bytes : Nat) : Nat :=
  1 + (thresholds.filter (· ≤ bytes)).length

/-- The first letter of each unit. -/
def unitLetter : Nat → Char
  | 1 => 'K'
  | 2 => 'M'
  | 3 => 'G'
  | 4 => 'T'
  | 5 => 'P'
  | _ => 'E'

/-- A byte count with its unit. The quotient is taken in double
precision before it is cut to one place. -/
def text (bytes : Nat) : String :=
  if bytes < 1000 then
    Decimal.text bytes ++ " B"
  else
    let unit := unitIndex bytes
    let quotient := (Binary64.ofNat bytes).div (Binary64.ofNat (Nat.pow 1000 unit))
    String.ofList (quotient.fixed 1 ++ [' ', unitLetter unit, 'B'])

end MapBench.ByteSize
