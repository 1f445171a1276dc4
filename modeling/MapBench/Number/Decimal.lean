/-!
# `MapBench.Number.Decimal`: whole numbers in decimal

Numbers go in and out as text everywhere in the benchmark: keys are
padded numbers, options are signed integers, counts travel as plain
digits. This module has the digits of a number, the number that
digits denote, and the two readers.

* `value_digits`: reading the digits of a number gives the number.
* `digits_isDigit`: digits are the ten ASCII digits and nothing else.
-/

set_option autoImplicit false

namespace MapBench.Decimal

/-- The digits of a number, most significant first and without
leading zeros. Zero is the single digit `0`. -/
def digits (n : Nat) : List Char :=
  Nat.toDigits 10 n

/-- The digits of a number as text. -/
def text (n : Nat) : String :=
  String.ofList (digits n)

/-- The number that decimal digits denote. No digits denote zero. -/
def value (ds : List Char) : Nat :=
  Nat.ofDigitChars 10 ds 0

/-- The digits of a number, filled up with leading zeros to a width.
A number with more digits than that keeps them all. -/
def padded (width n : Nat) : List Char :=
  List.leftpad width '0' (digits n)

/-- The digits of a number stand for that number. -/
theorem value_digits (n : Nat) : value (digits n) = n :=
  Nat.ofDigitChars_toDigits (by decide) (by decide)

/-- And they are all digits, so a reader of numbers takes them. -/
theorem digits_isDigit {n : Nat} {c : Char} (h : c ∈ digits n) : c.isDigit = true :=
  Nat.isDigit_of_mem_toDigits (by decide) (by decide) h

/-- Is the text one or more ASCII digits? -/
def isDigits (ds : List Char) : Bool :=
  !ds.isEmpty && ds.all Char.isDigit

/-- Read one or more digits. Leading zeros are allowed. -/
def unsigned? (cs : List Char) : Option Nat :=
  if isDigits cs then some (value cs) else none

/-- Read an integer: an optional single sign, then digits. -/
def signed? : List Char → Option Int
  | '-' :: cs => (unsigned? cs).map fun n => -Int.ofNat n
  | '+' :: cs => (unsigned? cs).map Int.ofNat
  | cs => (unsigned? cs).map Int.ofNat

/-- Does an integer fit a signed word of 64 bits? -/
def fitsWord (n : Int) : Bool :=
  -0x8000000000000000 ≤ n && n ≤ 0x7FFFFFFFFFFFFFFF

end MapBench.Decimal
