/-!
# `MapBench.Text.Hex`: hexadecimal digits, and bytes written in them

A byte is written as two digits. Letters are written in lower case
unless somebody wants otherwise, and read in either case.

* `decode?_encode`: bytes that were written read back.
-/

set_option autoImplicit false

namespace MapBench.Hex

/-- The digit of a value below 16. -/
def digit (n : Nat) : Char :=
  if n < 10 then Char.ofNat (48 + n) else Char.ofNat (87 + n)

/-- The digit of a value below 16, with letters in upper case. -/
def upperDigit (n : Nat) : Char :=
  if n < 10 then Char.ofNat (48 + n) else Char.ofNat (55 + n)

/-- The value of a digit. -/
def value? (c : Char) : Option Nat :=
  if c.isDigit then some (c.toNat - 48)
  else if 'a' ≤ c ∧ c ≤ 'f' then some (c.toNat - 87)
  else if 'A' ≤ c ∧ c ≤ 'F' then some (c.toNat - 55)
  else none

/-- A byte as two digits. -/
def byteDigits (b : UInt8) : List Char :=
  [digit (b.toNat / 16), digit (b.toNat % 16)]

/-- Bytes, each as two digits. -/
def encode (bytes : List UInt8) : List Char :=
  bytes.flatMap byteDigits

/-- Read bytes that are written as two digits each, behind those of
`rev`. -/
def decodeOnto (rev : List UInt8) : List Char → Option (List UInt8)
  | [] => some rev.reverse
  | [_] => none
  | a :: b :: cs =>
    match value? a, value? b with
    | some high, some low => decodeOnto ((high * 16 + low).toUInt8 :: rev) cs
    | _, _ => none

/-- Read bytes that are written as two digits each. -/
def decode? (cs : List Char) : Option (List UInt8) :=
  decodeOnto [] cs

/-- A digit stands for the number that it was made of. -/
theorem value?_digit {n : Nat} (h : n < 16) : value? (digit n) = some n := by
  have all : ∀ m : Fin 16, value? (digit m) = some m.val := by decide
  exact all ⟨n, h⟩

/-- Pairs of digits are read one after another, whatever was read before.
The induction is on the bytes. -/
theorem decodeOnto_encode (bytes rev : List UInt8) :
    decodeOnto rev (encode bytes) = some (rev.reverse ++ bytes) := by
  induction bytes generalizing rev with
  | nil => simp [encode, decodeOnto]
  | cons b bs ih =>
    have high : b.toNat / 16 < 16 := by have := b.toNat_lt; omega
    have low : b.toNat % 16 < 16 := Nat.mod_lt _ (by decide)
    have whole : b.toNat / 16 * 16 + b.toNat % 16 = b.toNat := by omega
    have step : encode (b :: bs) = digit (b.toNat / 16) :: digit (b.toNat % 16) :: encode bs := rfl
    rw [step, decodeOnto, value?_digit high, value?_digit low]
    simp only [whole]
    rw [ih]
    simp

/-- Bytes that were written are read back. This is what keeps data in a line
of text. -/
theorem decode?_encode (bytes : List UInt8) : decode? (encode bytes) = some bytes :=
  decodeOnto_encode bytes []

end MapBench.Hex
