import MapBench.Batch.Offsets
import MapBench.Proofs.Batch.Generate

/-!
# `MapBench.Proofs.Batch.Words`: batches made up in words

A machine makes up batches in words of 64 bits, and the digits of values in
bytes. Where a sum or a difference would leave its range there is no result.
There is one exactly if the index behind the batch is still a word, and then
it is the batch.

The text of a key is no number, so only what its index is matters here.

* `sum?`, `difference?`: arithmetic in a range.
* `Batch.checkLast`, `Batch.generateInWords`: how a batch is made up in
  words.
* `Batch.run_generateInWords`: what that comes to.
* `Batch.fits_of_checkLast`: a batch that is begun has keys for all its
  indexes.
-/

set_option autoImplicit false

namespace MapBench

/-- The largest byte. The digits of values are made up in bytes. -/
def maxByte : Nat := 0xFF

/-- The sum of two numbers, unless it exceeds the largest one. A machine
that checks its sums stops there. -/
def sum? (largest a b : Nat) : Option Nat :=
  if a + b ≤ largest then some (a + b) else none

/-- The difference of two numbers, unless it is below zero. -/
def difference? (a b : Nat) : Option Nat :=
  if b ≤ a then some (a - b) else none

/-- A sum that is small enough is there. -/
theorem sum?_eq_some {largest a b : Nat} (h : a + b ≤ largest) : sum? largest a b = some (a + b) :=
  if_pos h

/-- One that is too large isn't. -/
theorem sum?_eq_none {largest a b : Nat} (h : largest < a + b) : sum? largest a b = none :=
  if_neg (Nat.not_le.mpr h)

/-- A difference that is there is the difference, and nothing was taken from
less. -/
theorem difference?_eq_some_iff {a b c : Nat} : difference? a b = some c ↔ b ≤ a ∧ a - b = c := by
  rw [difference?, Option.ite_none_right_eq_some, Option.some.injEq]

/-- A sum that is there is the sum, and it is small enough. -/
theorem sum?_eq_some_iff {largest a b c : Nat} : sum? largest a b = some c ↔ a + b ≤ largest ∧ a + b = c := by
  rw [sum?, Option.ite_none_right_eq_some, Option.some.injEq]

/-- The value at an index, made up in words and bytes. Each sum in it is
checked. -/
def rotatingDigitsInWords (index size : Nat) : Option (List UInt8) :=
  (List.range size).mapM fun k => do
    -- Both are reduced first, so that neither a large index nor a large size matters.
    let turn ← sum? maxWord (index % 10) (k % 10)
    let digit ← sum? maxByte 48 (turn % 10)
    return digit.toUInt8

/-- No value leaves its range, whatever its index and its size are: sums of
two digits are at most 18. -/
theorem rotatingDigitsInWords_eq (index size : Nat) :
    rotatingDigitsInWords index size = some (rotatingDigits index size) := by
  refine mapM_eq_pure fun k _ => ?_
  have hturn : index % 10 + k % 10 ≤ maxWord := by
    have : (18 : Nat) ≤ maxWord := by decide
    omega
  have hdigit : 48 + (index % 10 + k % 10) % 10 ≤ maxByte := by
    have : (57 : Nat) ≤ maxByte := by decide
    omega
  rw [sum?_eq_some hturn, Option.bind_eq_bind, Option.bind_some, sum?_eq_some hdigit,
    Nat.add_mod index k 10]
  rfl

namespace Batch

/-- What is done in words: it may meet an index without a key, and it has no
result if a number leaves its range. -/
abbrev InWords := ExceptT KeyError Option

/-- Check the last index of a batch, if it has one. This comes before
anything is made up. -/
def checkLast (count start : Nat) : InWords Unit := do
  if 0 < count then
    let behind ← sum? maxWord start count
    let last ← difference? behind 1
    let _ ← Key.ofIndex last

/-- The pair with a number, counted from an index. Its index is a sum that
is checked, too. -/
def pairInWords (start size number : Nat) : InWords Pair := do
  let index ← sum? maxWord start number
  let key ← Key.ofIndex index
  let value ← rotatingDigitsInWords index size
  return ⟨key, value⟩

/-- The batch of `count` pairs from index `start` on. Room for all of them is
reserved once the last index is checked. -/
def generateInWords (count start size : Nat) : InWords Batch := do
  checkLast count start
  let pairs ← (List.range count).mapM (pairInWords start size)
  return ⟨pairs⟩

section

variable {α : Type} {largest a b index : Nat}

/-- A sum in its range is taken for what it is, and what is done with it
goes on. -/
theorem bind_sum? (f : Nat → InWords α) (h : a + b ≤ largest) :
    ((sum? largest a b : InWords Nat) >>= f) = f (a + b) := by
  rw [sum?_eq_some h]
  rfl

/-- Nothing is done with a sum outside its range. -/
theorem run_bind_sum?_eq_none (f : Nat → InWords α) (h : largest < a + b) :
    ((sum? largest a b : InWords Nat) >>= f).run = none := by
  rw [sum?_eq_none h]
  rfl

/-- A difference that isn't below zero is taken for what it is. -/
theorem bind_difference? (f : Nat → InWords α) (h : b ≤ a) :
    ((difference? a b : InWords Nat) >>= f) = f (a - b) := by
  rw [difference?, if_pos h]
  rfl

/-- An index that has a key gets it, and what is done with the key goes on. -/
theorem bind_ofIndex (f : String → InWords α) (h : index < Key.limit) :
    ((Key.ofIndex index : InWords String) >>= f) = f (Key.text index) := by
  rw [Key.ofIndex_eq, if_pos h]
  rfl

/-- An index without a key ends it. That is an error that is told, unlike a
sum outside its range. -/
theorem bind_ofIndex_eq_error (f : String → InWords α) (h : Key.limit ≤ index) :
    ((Key.ofIndex index : InWords String) >>= f) = throw (.tooWide index) := by
  rw [Key.ofIndex_eq, if_neg (Nat.not_lt.mpr h)]
  rfl

end

variable {count start : Nat}

/-- The last index isn't known if the one behind it is no word. -/
theorem run_checkLast_eq_none (hcount : 0 < count) (hover : maxWord < start + count) :
    (checkLast count start).run = none := by
  rw [checkLast, if_pos hcount]
  exact run_bind_sum?_eq_none _ hover

/-- If it is a word, the check tells whether the last index has a key. -/
theorem checkLast_eq (hcount : 0 < count) (hword : start + count ≤ maxWord) :
    checkLast count start =
      if Key.limit < start + count then throw (.tooWide (start + count - 1)) else pure () := by
  rw [checkLast, if_pos hcount, bind_sum? _ hword, bind_difference? _ (by omega)]
  split
  next hwide => exact bind_ofIndex_eq_error _ (by omega)
  next hfits => exact bind_ofIndex _ (by omega)

/-- A batch is begun only if all its indexes have keys. So none of the sums
after the check leaves its range. -/
theorem fits_of_checkLast (hcount : 0 < count) (h : checkLast count start = pure ()) :
    start + count ≤ Key.limit := by
  refine Nat.not_lt.mp fun hwide => ?_
  by_cases hword : start + count ≤ maxWord
  · rw [checkLast_eq hcount hword, if_pos hwide] at h
    cases congrArg ExceptT.run h
  · have hnone := run_checkLast_eq_none hcount (Nat.not_le.mp hword)
    rw [h] at hnone
    cases hnone

/-- A pair whose index has a key is made up in words, and is the same. -/
theorem pairInWords_eq {size number : Nat} (h : start + number < Key.limit) :
    pairInWords start size number = pure (Pair.generated size (start + number)) := by
  have hword : start + number ≤ maxWord := Nat.le_trans (Nat.le_of_lt h) (by decide)
  rw [pairInWords, bind_sum? _ hword, bind_ofIndex _ h, rotatingDigitsInWords_eq]
  rfl

/-- In words there is no batch whose indexes, with the one behind it, are not
all words. Any other is made up, or has an index without a key, as it would
be without a range. -/
theorem run_generateInWords (size : Nat) (hstart : start ≤ maxWord) :
    (generateInWords count start size).run =
      if maxWord < start + count then none else some (generate count start size) := by
  rcases Nat.eq_zero_or_pos count with rfl | hcount
  · -- Nothing is added to the start.
    rw [Nat.add_zero, if_neg (Nat.not_lt.mpr hstart)]
    rfl
  split
  next hover =>
    rw [generateInWords, ExceptT.run_bind, run_checkLast_eq_none hcount hover]
    rfl
  next hword =>
    rw [generateInWords, checkLast_eq hcount (Nat.not_lt.mp hword), generate_eq]
    by_cases hwide : Key.limit < start + count
    · rw [if_pos hwide, if_pos ⟨hcount, hwide⟩]
      rfl
    · -- Once the last index has a key, no other leaves the words.
      have hpairs : (List.range count).mapM (pairInWords start size) =
          pure (Pair.stretch size start count) := by
        rw [Pair.stretch, List.range'_eq_map_range, List.map_map]
        refine mapM_eq_pure fun number hnumber => pairInWords_eq ?_
        rw [List.mem_range] at hnumber
        omega
      rw [if_neg hwide, if_neg fun h => hwide h.2, pure_bind, hpairs]
      rfl

end Batch

end MapBench
