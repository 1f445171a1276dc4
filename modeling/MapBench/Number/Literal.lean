import MapBench.Number.Binary64
import MapBench.Number.Decimal

/-!
# `MapBench.Number.Literal`: decimal literals with a point and an exponent

A literal is an optional sign, digits with an optional point among
them, and an optional exponent. Its exact value is a natural
significand times a power of ten, with a sign.

* `Literal.parse?`: the literal that a text spells.
* `Literal.magnitude?`: the double nearest to its absolute value.
-/

set_option autoImplicit false

namespace MapBench

/-- A decimal literal: `significand * 10 ^ scale`, negated if
`negative`. -/
structure Literal where
  negative : Bool
  significand : Nat
  scale : Int
  deriving Repr, DecidableEq

namespace Literal

/-- Split an optional sign off a text. -/
def sign : List Char → Bool × List Char
  | '-' :: cs => (true, cs)
  | '+' :: cs => (false, cs)
  | cs => (false, cs)

/-- Read what follows the digits: nothing, or a whole exponent. -/
def exponent? : List Char → Option Int
  | [] => some 0
  | c :: cs => if c = 'e' ∨ c = 'E' then Decimal.signed? cs else none

/-- Read a literal. At least one digit has to stand before or after
the point. -/
def parse? (cs : List Char) : Option Literal :=
  let (negative, cs) := sign cs
  let whole := cs.takeWhile Char.isDigit
  let rest := cs.dropWhile Char.isDigit
  let (fraction, rest) := match rest with
    | '.' :: rest => (rest.takeWhile Char.isDigit, rest.dropWhile Char.isDigit)
    | rest => ([], rest)
  -- A point by itself is no number.
  if whole.isEmpty && fraction.isEmpty then none
  else
    (exponent? rest).map fun e =>
      -- Each digit behind the point makes the last place ten times smaller.
      ⟨negative, Decimal.value (whole ++ fraction), e - fraction.length⟩

/-- The decimal exponent of a nonzero literal: its absolute value is
at least `10 ^ (order - 1)` and below `10 ^ order`. -/
def order (l : Literal) : Int :=
  (Decimal.digits l.significand).length + l.scale

/-- The double nearest to the absolute value, `none` for infinity. A
value of order past 310 is beyond every double and one of order
below -400 is nearest to zero, so neither is written out. -/
def magnitude? (l : Literal) : Option Binary64 :=
  if l.significand = 0 ∨ l.order < -400 then some ⟨0, 0⟩
  else if 310 < l.order then none
  else Binary64.nearest? (l.significand * Nat.pow 10 l.scale.toNat) (Nat.pow 10 (-l.scale).toNat)

end Literal

end MapBench
