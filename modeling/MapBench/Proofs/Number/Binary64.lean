import Mathlib.Algebra.Order.Field.Power
import MapBench.Proofs.Number.Rounding

/-!
# `MapBench.Proofs.Number.Binary64`: the nearest double

The doubles are the numbers with a significand below `2 ^ 53` and an
exponent from -1074 to 971. The nearest one to a number is the one that no
double is nearer than, and of two equally near ones the one with an even
significand. That this is a function of the number, and keeps the order of
numbers, follows from the two rules alone, since of two neighbours only one
is even. Rounding a quotient obeys the rules: it takes the multiples of a
power of two that are doubles around the quotient, and rounds to the nearest
of them.

* `IsDouble`, `IsNearest`: the doubles, and the nearest one.
* `IsNearest.le`: rounding keeps the order.
* `fitsExponent_exponentFor`: the power of two for a quotient.
* `Binary64.nearest?_cases`: what rounding a quotient gives.
* `exists_isNearest`: numbers that are not too large have a nearest double.
-/

set_option autoImplicit false

namespace MapBench

/-! ### Doubles -/

/-- The significands and exponents of doubles. The significand has all its
bits, unless there is no smaller exponent. -/
structure IsDoubleForm (m : ℕ) (e : ℤ) : Prop where
  lt : m < 2 ^ 53
  full : 2 ^ 52 ≤ m ∨ e = -1074
  le_exponent : -1074 ≤ e
  exponent_le : e ≤ 971

/-- The value of a finite double that is not negative. Those below zero are
the same with a sign, which is kept apart. -/
def IsDouble (x : ℚ) : Prop :=
  ∃ (m : ℕ) (e : ℤ), IsDoubleForm m e ∧ x = m * 2 ^ e

/-- The value of a double with an even significand. Ties go to these. -/
def IsEvenDouble (x : ℚ) : Prop :=
  ∃ (m : ℕ) (e : ℤ), IsDoubleForm m e ∧ Even m ∧ x = m * 2 ^ e

/-- A double is nearest to a number if no other is nearer, and those that
are as near have an odd significand. -/
structure IsNearest (q x : ℚ) : Prop where
  isDouble : IsDouble x
  nearest : ∀ y, IsDouble y → |x - q| ≤ |y - q|
  even_of_tie : ∀ y, IsDouble y → y ≠ x → |y - q| = |x - q| → IsEvenDouble x

/-- Powers of two are above zero, so both sides of a comparison can be
divided by them. -/
theorem two_zpow_pos (e : ℤ) : (0 : ℚ) < 2 ^ e := by
  positivity

/-- A power of two cut in two, as exponents are shifted by whole numbers of
bits. -/
theorem two_zpow_add (e : ℤ) (n : ℕ) : (2 : ℚ) ^ (e + n) = 2 ^ n * 2 ^ e := by
  rw [zpow_add₀ (by decide), zpow_natCast, mul_comm]

/-- Whatever fits 53 bits is a double. A significand that is too small for
its exponent is shifted up as far as the exponent goes. -/
theorem isDouble_of_lt {m : ℕ} {e : ℤ} (hm : m < 2 ^ 53) (hlow : -1074 ≤ e) (hhigh : e ≤ 971) :
    IsDouble (m * 2 ^ e) := by
  -- A missing bit is made up for by the next smaller exponent, until there is none.
  induction hn : (e + 1074).toNat generalizing m e with
  | zero => exact ⟨m, e, ⟨hm, .inr (by omega), hlow, hhigh⟩, rfl⟩
  | succ n ih =>
    by_cases hfull : 2 ^ 52 ≤ m
    · exact ⟨m, e, ⟨hm, .inl hfull, hlow, hhigh⟩, rfl⟩
    · have hdouble : (m : ℚ) * 2 ^ e = (2 * m : ℕ) * 2 ^ (e - 1) := by
        have := two_zpow_add (e - 1) 1
        rw [Nat.cast_one, sub_add_cancel] at this
        rw [this]
        push_cast
        ring
      rw [hdouble]
      exact ih (by omega) (by omega) (by omega) (by omega)

/-- Zero is a double. It has no exponent of its own, so it is given the
least one. -/
theorem isDouble_zero : IsDouble 0 :=
  ⟨0, -1074, ⟨by decide, .inr rfl, by decide, by decide⟩, by simp⟩

/-- A number with a larger exponent is a multiple of the power of two.
Shifted to the smaller exponent it keeps its factors, so it stays even. -/
theorem exists_multiple (m : ℕ) {d e : ℤ} (hle : e ≤ d) :
    ∃ k : ℕ, (m ∣ k) ∧ (m : ℚ) * 2 ^ d = k * 2 ^ e := by
  refine ⟨m * 2 ^ (d - e).toNat, Nat.dvd_mul_right .., ?_⟩
  have hpower := two_zpow_add e (d - e).toNat
  rw [show e + ((d - e).toNat : ℤ) = d by omega] at hpower
  rw [hpower]
  push_cast
  ring

namespace IsDoubleForm

/-- A double with a smaller exponent lies below those that have all their
bits. -/
theorem lt_of_exponent_lt {m : ℕ} {d e : ℤ} (h : IsDoubleForm m d) (hlt : d < e) :
    (m : ℚ) * 2 ^ d < 2 ^ (e + 52) := by
  have hm : (m : ℚ) < 2 ^ 53 := by exact_mod_cast h.lt
  calc (m : ℚ) * 2 ^ d < 2 ^ 53 * 2 ^ d := mul_lt_mul_of_pos_right hm (two_zpow_pos d)
    _ = 2 ^ (d + 53) := (two_zpow_add d 53).symm
    _ ≤ 2 ^ (e + 52) := zpow_le_zpow_right₀ (by norm_num) (by omega)

/-- A double that isn't below the least exponent has all its bits. So
exponents tell how large doubles are. -/
theorem le_of_ne {m : ℕ} {e : ℤ} (h : IsDoubleForm m e) (hne : e ≠ -1074) :
    (2 : ℚ) ^ (e + 52) ≤ m * 2 ^ e := by
  have hm : (2 ^ 52 : ℚ) ≤ m := by exact_mod_cast h.full.resolve_right hne
  calc (2 : ℚ) ^ (e + 52) = 2 ^ 52 * 2 ^ e := two_zpow_add e 52
    _ ≤ m * 2 ^ e := mul_le_mul_of_nonneg_right hm (two_zpow_pos e).le

end IsDoubleForm

/-- Between two doubles with even significands there is another double: the
one just behind the smaller of them. This is why ties can be broken by even
significands. -/
theorem IsEvenDouble.exists_between {x y : ℚ} (hx : IsEvenDouble x) (hy : IsEvenDouble y)
    (hlt : x < y) : ∃ z, IsDouble z ∧ x < z ∧ z < y := by
  obtain ⟨m, e, hform, heven, rfl⟩ := hx
  obtain ⟨n, d, hform', heven', rfl⟩ := hy
  have hpos := two_zpow_pos e
  have hodd : Odd (m + 1) := heven.add_one
  -- The one behind `x`. Its significand is odd, so it has at most 53 bits, too.
  refine ⟨(m + 1 : ℕ) * 2 ^ e, isDouble_of_lt ?_ hform.le_exponent hform.exponent_le, ?_, ?_⟩
  · have := hform.lt
    have : m + 1 ≠ 2 ^ 53 := by
      rintro h
      rw [h] at hodd
      exact absurd hodd (by decide)
    omega
  · push_cast
    linarith
  · rcases le_or_gt e d with hle | hgt
    · obtain ⟨k, hdvd, hk⟩ := exists_multiple n hle
      rw [hk] at hlt ⊢
      have hmk : m < k := by exact_mod_cast lt_of_mul_lt_mul_right hlt hpos.le
      have hne : m + 1 ≠ k := by
        rintro rfl
        exact Nat.not_even_iff_odd.mpr hodd (heven'.trans_dvd hdvd)
      have : m + 1 < k := by omega
      exact mul_lt_mul_of_pos_right (by exact_mod_cast this) hpos
    · -- A smaller exponent would make `y` the smaller one.
      have := hform'.lt_of_exponent_lt hgt
      have := hform.le_of_ne (by have := hform'.le_exponent; omega)
      linarith

/-! ### The nearest double -/

namespace IsNearest

variable {p q x y : ℚ}

/-- A double is nearest to itself, and so near that there is no tie. -/
theorem self (h : IsDouble x) : IsNearest x x where
  isDouble := h
  nearest y _ := by simp
  even_of_tie y _ hne htie := by
    rw [sub_self, abs_zero, abs_eq_zero, sub_eq_zero] at htie
    exact absurd htie hne

/-- Rounding keeps the order of numbers. Nothing but the two rules is used,
so it holds for any way to find the nearest double. -/
theorem le (hx : IsNearest p x) (hy : IsNearest q y) (hpq : p ≤ q) : x ≤ y := by
  by_contra hlt
  rw [not_le] at hlt
  have hxp := hx.nearest y hy.isDouble
  have hyq := hy.nearest x hx.isDouble
  -- Then the numbers are one, in the middle of the two doubles.
  have hp : (x + y) / 2 ≤ p := by
    by_contra hp
    rw [abs_of_pos (by linarith)] at hxp
    rcases abs_cases (y - p) with ⟨h, -⟩ | ⟨h, -⟩ <;> linarith
  have hq : q ≤ (x + y) / 2 := by
    by_contra hq
    rw [abs_of_neg (by linarith : y - q < 0)] at hyq
    rcases abs_cases (x - q) with ⟨h, -⟩ | ⟨h, -⟩ <;> linarith
  have hpm : p = (x + y) / 2 := by linarith
  have hqm : q = (x + y) / 2 := by linarith
  have htie : |y - (x + y) / 2| = |x - (x + y) / 2| := by
    rw [abs_of_neg, abs_of_pos] <;> linarith
  subst hpm
  have hxeven := hx.even_of_tie y hy.isDouble hlt.ne htie
  rw [hqm] at hy
  have hyeven := hy.even_of_tie x hx.isDouble hlt.ne' htie.symm
  -- But between doubles with even significands there is one that is nearer.
  obtain ⟨z, hz, hyz, hzx⟩ := hyeven.exists_between hxeven hlt
  have hnearer := hx.nearest z hz
  rw [abs_of_pos (by linarith : 0 < x - (x + y) / 2)] at hnearer
  rcases abs_cases (z - (x + y) / 2) with ⟨h, -⟩ | ⟨h, -⟩ <;> linarith

/-- There is only one nearest double. Each of two would be no larger than
the other. -/
theorem unique (hx : IsNearest q x) (hy : IsNearest q y) : x = y :=
  le_antisymm (hx.le hy le_rfl) (hy.le hx le_rfl)

end IsNearest

/-! ### Rounding to a power of two -/

/-- From here on numbers are nearer to the power of two behind the largest
double, and count as infinite. -/
def overflow : ℚ :=
  2 ^ (1024 : ℤ) - 2 ^ (970 : ℤ)

/-- The overflow lies in the middle behind the largest double, where the
next one would be. -/
theorem overflow_eq : overflow = (2 ^ 53 - 1 / 2) * 2 ^ (971 : ℤ) := by
  have hbehind : (2 : ℚ) ^ (1024 : ℤ) = 2 ^ 54 * 2 ^ (970 : ℤ) := two_zpow_add 970 54
  have hlargest : (2 : ℚ) ^ (971 : ℤ) = 2 ^ 1 * 2 ^ (970 : ℤ) := two_zpow_add 970 1
  rw [overflow, hbehind, hlargest]
  ring

/-- A power of two that is clearly below the overflow, to compare small
exponents with. -/
theorem two_pow_lt_overflow : (2 : ℚ) ^ (1023 : ℤ) < overflow := by
  have hpower : (2 : ℚ) ^ (1023 : ℤ) = 2 ^ 52 * 2 ^ (971 : ℤ) := two_zpow_add 971 52
  rw [overflow_eq, hpower]
  exact mul_lt_mul_of_pos_right (by norm_num) (two_zpow_pos 971)

/-- The overflow is above zero. -/
theorem overflow_pos : 0 < overflow :=
  (two_zpow_pos 1023).trans two_pow_lt_overflow

/-- The exponent with which the significand of a number has 53 bits, or the
least exponent if that would be smaller. -/
structure FitsExponent (q : ℚ) (e : ℤ) : Prop where
  lt : q < 2 ^ (e + 53)
  full : 2 ^ (e + 52) ≤ q ∨ e = -1074
  le_exponent : -1074 ≤ e

namespace FitsExponent

variable {q : ℚ} {e : ℤ} {m : ℕ}

/-- The exponent of a number above the least double that has all its bits
is never too small. -/
theorem max (hlt : q < 2 ^ (e + 53)) (hle : 2 ^ (e + 52) ≤ q) : FitsExponent q (max (-1074) e) where
  lt := hlt.trans_le (zpow_le_zpow_right₀ (by norm_num) (by omega))
  full := by
    rcases le_total (-1074) e with h | h
    · rw [max_eq_right h]
      exact .inl hle
    · rw [max_eq_left h]
      exact .inr rfl
  le_exponent := le_max_left ..

/-- Distances are those of the multiples. So the nearest multiple of a power
of two is found by rounding a quotient. -/
theorem abs_mul_sub (k : ℚ) (e : ℤ) (q : ℚ) : |k * 2 ^ e - q| = |k - q / 2 ^ e| * 2 ^ e := by
  have hpos := two_zpow_pos e
  rw [← abs_of_pos hpos, ← abs_mul, abs_of_pos hpos, sub_mul, div_mul_cancel₀ _ hpos.ne']

/-- The significand has 53 bits, or is the next power of two. In that case
its exponent could be one larger, and it is still a double. -/
theorem le_of_isRounding (h : FitsExponent q e) (hm : IsRounding (q / 2 ^ e) m) : m ≤ 2 ^ 53 := by
  refine hm.le (.self (2 ^ 53)) ?_
  have hpower : (2 : ℚ) ^ (e + 53) = (2 ^ 53 : ℕ) * 2 ^ e := by exact_mod_cast two_zpow_add e 53
  rw [div_le_iff₀ (two_zpow_pos e), ← hpower]
  exact h.lt.le

/-- The significand has its leading bit, unless the exponent is the least
one. -/
theorem full_of_isRounding (h : FitsExponent q e) (hm : IsRounding (q / 2 ^ e) m) :
    2 ^ 52 ≤ m ∨ e = -1074 := by
  refine h.full.imp_left fun hfull => ?_
  refine (IsRounding.self (2 ^ 52)).le hm ?_
  have hpower : (2 : ℚ) ^ (e + 52) = (2 ^ 52 : ℕ) * 2 ^ e := by exact_mod_cast two_zpow_add e 52
  rw [le_div_iff₀ (two_zpow_pos e), ← hpower]
  exact hfull

/-- If there is room for the significand, the multiple is a double, and even
if its factor is. -/
theorem exists_form (h : FitsExponent q e) (hm : IsRounding (q / 2 ^ e) m)
    (hroom : e < 971 ∨ e = 971 ∧ m < 2 ^ 53) :
    ∃ (k : ℕ) (d : ℤ), IsDoubleForm k d ∧ (Even m → Even k) ∧ (m : ℚ) * 2 ^ e = k * 2 ^ d := by
  have hle := h.le_exponent
  by_cases hlt : m < 2 ^ 53
  · exact ⟨m, e, ⟨hlt, h.full_of_isRounding hm, hle, by omega⟩, id, rfl⟩
  · -- A power of two is one of the next exponent, too.
    have hmax : m = 2 ^ 53 := le_antisymm (h.le_of_isRounding hm) (by omega)
    refine ⟨2 ^ 52, e + 1, ⟨by decide, .inl le_rfl, by omega, by omega⟩, fun _ => by decide, ?_⟩
    have hnext := two_zpow_add e 1
    rw [Nat.cast_one] at hnext
    rw [hmax, hnext]
    push_cast
    ring

/-- There is no room for the significand from the overflow on, and there is
room for it below. -/
theorem overflow_le_iff (h : FitsExponent q e) (hm : IsRounding (q / 2 ^ e) m) :
    overflow ≤ q ↔ 971 < e ∨ e = 971 ∧ 2 ^ 53 ≤ m := by
  rcases lt_trichotomy e 971 with hless | rfl | hmore
  · have hq : q < overflow := by
      calc q < 2 ^ (e + 53) := h.lt
        _ ≤ 2 ^ (1023 : ℤ) := zpow_le_zpow_right₀ (by norm_num) (by omega)
        _ < overflow := two_pow_lt_overflow
    simp only [not_le.mpr hq, false_iff]
    omega
  · -- The largest significand is odd, so the middle behind it is rounded up.
    rw [overflow_eq, ← le_div_iff₀ (two_zpow_pos 971)]
    have hnear := abs_le.mp hm.near
    constructor
    · intro hle
      refine .inr ⟨rfl, ?_⟩
      by_contra hlt
      have hlt' : (m : ℚ) + 1 ≤ 2 ^ 53 := by exact_mod_cast not_le.mp hlt
      have hmax : (m : ℚ) + 1 = 2 ^ 53 := by linarith
      have heven := hm.even_of_tie (by rw [abs_of_nonpos] <;> linarith)
      have : m + 1 = 2 ^ 53 := by exact_mod_cast hmax
      exact absurd heven.add_one (by rw [this]; decide)
    · rintro (habsurd | ⟨-, hle⟩)
      · exact absurd habsurd (lt_irrefl 971)
      · have : (2 ^ 53 : ℚ) ≤ m := by exact_mod_cast hle
        linarith
  · have hfull : (2 : ℚ) ^ (e + 52) ≤ q := h.full.resolve_right (by omega)
    have hq : overflow ≤ q := by
      calc overflow ≤ 2 ^ (1024 : ℤ) := by
            rw [overflow]
            exact sub_le_self _ (by positivity)
        _ ≤ 2 ^ (e + 52) := zpow_le_zpow_right₀ (by norm_num) (by omega)
        _ ≤ q := hfull
    simp only [hq, true_iff]
    exact .inl hmore

/-- A double is a multiple of the power of two, or farther away than the
nearest multiple. -/
theorem multiple_or_farther (h : FitsExponent q e) (hm : IsRounding (q / 2 ^ e) m) {y : ℚ}
    (hy : IsDouble y) : (∃ k : ℕ, y = k * 2 ^ e) ∨ |m * 2 ^ e - q| < |y - q| := by
  obtain ⟨n, d, hform, rfl⟩ := hy
  rcases le_or_gt e d with hle | hgt
  · obtain ⟨k, -, hk⟩ := exists_multiple n hle
    exact .inl ⟨k, hk⟩
  · right
    have hbelow := hform.lt_of_exponent_lt hgt
    have hfull : (2 : ℚ) ^ (e + 52) ≤ q := h.full.resolve_right (by have := hform.le_exponent; omega)
    -- The least multiple with all bits lies between the two.
    have hnear : |(m : ℚ) * 2 ^ e - q| ≤ |2 ^ (e + 52) - q| := by
      have hpower : (2 : ℚ) ^ (e + 52) = (2 ^ 52 : ℤ) * 2 ^ e := by exact_mod_cast two_zpow_add e 52
      rw [hpower, abs_mul_sub, abs_mul_sub]
      exact mul_le_mul_of_nonneg_right (hm.nearest _) (two_zpow_pos e).le
    refine hnear.trans_lt ?_
    rw [abs_of_nonpos (by linarith), abs_of_neg (by linarith)]
    linarith

/-- The nearest multiple is the nearest double. Doubles with larger
exponents are multiples, too, and those with smaller ones are farther away. -/
theorem isNearest (h : FitsExponent q e) (hm : IsRounding (q / 2 ^ e) m)
    (hroom : e < 971 ∨ e = 971 ∧ m < 2 ^ 53) : IsNearest q (m * 2 ^ e) where
  isDouble := by
    obtain ⟨k, d, hform, -, heq⟩ := h.exists_form hm hroom
    exact ⟨k, d, hform, heq⟩
  nearest y hy := by
    rcases h.multiple_or_farther hm hy with ⟨k, rfl⟩ | hfarther
    · rw [abs_mul_sub, abs_mul_sub]
      exact mul_le_mul_of_nonneg_right (hm.nearest k) (two_zpow_pos e).le
    · exact hfarther.le
  even_of_tie y hy hne htie := by
    rcases h.multiple_or_farther hm hy with ⟨k, rfl⟩ | hfarther
    · rw [abs_mul_sub, abs_mul_sub] at htie
      have hequal : |((k : ℤ) : ℚ) - q / 2 ^ e| = |m - q / 2 ^ e| :=
        mul_right_cancel₀ (two_zpow_pos e).ne' (by exact_mod_cast htie)
      have hkm : (k : ℤ) ≠ m := fun hkm => hne (by rw [Int.natCast_inj.mp hkm])
      obtain ⟨n, d, hform, heven, heq⟩ := h.exists_form hm hroom
      exact ⟨n, d, hform, heven (hm.even_of_equally_near hkm hequal), heq⟩
    · exact absurd htie hfarther.ne'

end FitsExponent

/-! ### Rounding a quotient -/

namespace Binary64

/-- The exact value of a double, which is a fraction of a power of two. -/
def value (x : Binary64) : ℚ :=
  x.significand * 2 ^ x.exponent

/-- A power as a quotient of natural ones, for an exponent on either side of
zero. -/
theorem zpow_eq_div {b : ℚ} (hb : b ≠ 0) (e : ℤ) : b ^ e = b ^ e.toNat / b ^ (-e).toNat := by
  rw [eq_div_iff (pow_ne_zero _ hb), ← zpow_natCast, ← zpow_natCast, ← zpow_add₀ hb]
  congr 1
  omega

/-- A quotient over a power of two, in the natural numbers that it is
computed with. -/
theorem scaled_eq (num den : ℕ) (e : ℤ) :
    ((num * Nat.pow 2 (-e).toNat : ℕ) : ℚ) / (den * Nat.pow 2 e.toNat : ℕ) = num / den / 2 ^ e := by
  rw [zpow_eq_div two_ne_zero, Nat.pow_eq, Nat.pow_eq]
  push_cast
  field_simp

/-- The fraction of a double is its value, so what is computed with it is
exact. -/
theorem numerator_div_denominator (x : Binary64) : (x.numerator : ℚ) / x.denominator = x.value := by
  rw [numerator, denominator, value, zpow_eq_div two_ne_zero, Nat.pow_eq, Nat.pow_eq]
  push_cast
  ring

/-- Its denominator is a power of two, so it isn't zero. -/
theorem denominator_pos (x : Binary64) : 0 < x.denominator :=
  Nat.pow_pos (by decide)

/-- A double is compared with a whole number as a fraction, without rounding
anything. -/
theorem lt_value_iff (k : ℕ) (x : Binary64) : k * x.denominator < x.numerator ↔ (k : ℚ) < x.value := by
  have hden : (0 : ℚ) < x.denominator := by exact_mod_cast x.denominator_pos
  rw [← x.numerator_div_denominator, lt_div_iff₀ hden]
  norm_cast

/-- A double is zero if its value is, whatever its exponent. Its sign is
kept apart. -/
theorem isZero_iff (x : Binary64) : x.isZero ↔ x.value = 0 := by
  simp [Binary64.isZero, Binary64.value, (two_zpow_pos x.exponent).ne']

/-- The comparison by which the exponent is found, as one of quotients. -/
theorem scaled_lt_iff (num : ℕ) {den : ℕ} (hden : 0 < den) (e : ℤ) (k : ℕ) :
    num * Nat.pow 2 (-e).toNat < den * Nat.pow 2 e.toNat * k ↔ (num : ℚ) / den < k * 2 ^ e := by
  have hden' : (0 : ℚ) < den := by exact_mod_cast hden
  rw [zpow_eq_div two_ne_zero, Nat.pow_eq, Nat.pow_eq, div_lt_iff₀ hden', ← mul_div_assoc, div_mul_eq_mul_div,
    lt_div_iff₀ (by positivity)]
  norm_cast
  rw [mul_comm (k * 2 ^ e.toNat) den, mul_comm k, mul_assoc]

/-- The lengths of two numbers tell their quotient up to a factor of
two. -/
theorem quotient_bounds {num den : ℕ} (hnum : 0 < num) (hden : 0 < den) :
    (2 : ℚ) ^ ((num.log2 : ℤ) - den.log2 - 1) ≤ num / den ∧
      (num : ℚ) / den < 2 ^ ((num.log2 : ℤ) - den.log2 + 1) := by
  have hden' : (0 : ℚ) < den := by exact_mod_cast hden
  have hnumlow : (2 : ℚ) ^ num.log2 ≤ num := by exact_mod_cast Nat.log2_self_le hnum.ne'
  have hnumhigh : (num : ℚ) < 2 ^ (num.log2 + 1) := by exact_mod_cast Nat.lt_log2_self
  have hdenlow : (2 : ℚ) ^ den.log2 ≤ den := by exact_mod_cast Nat.log2_self_le hden.ne'
  have hdenhigh : (den : ℚ) < 2 ^ (den.log2 + 1) := by exact_mod_cast Nat.lt_log2_self
  constructor
  · calc (2 : ℚ) ^ ((num.log2 : ℤ) - den.log2 - 1) = 2 ^ num.log2 / 2 ^ (den.log2 + 1) := by
          rw [sub_sub, zpow_sub₀ (by decide)]
          norm_cast
      _ ≤ num / den := div_le_div₀ (by positivity) hnumlow hden' hdenhigh.le
  · calc (num : ℚ) / den < 2 ^ (num.log2 + 1) / 2 ^ den.log2 :=
          div_lt_div₀ hnumhigh hdenlow (by positivity) (by positivity)
      _ = 2 ^ ((num.log2 : ℤ) - den.log2 + 1) := by
          rw [sub_add_eq_add_sub, zpow_sub₀ (by decide)]
          norm_cast

/-- The exponent that is found for a quotient gives its significand 53 bits,
unless it is the least one. The lengths of the two numbers say it up to one. -/
theorem fitsExponent_exponentFor {num den : ℕ} (hnum : 0 < num) (hden : 0 < den) :
    FitsExponent (num / den) (exponentFor num den) := by
  obtain ⟨hlow, hhigh⟩ := quotient_bounds hnum hden
  obtain ⟨guess, hguess⟩ : ∃ guess : ℤ, guess = num.log2 - den.log2 - 52 := ⟨_, rfl⟩
  have hshort := scaled_lt_iff num hden guess (2 ^ 52)
  have hpower : (2 : ℚ) ^ (guess + 52) = (2 ^ 52 : ℕ) * 2 ^ guess := by
    exact_mod_cast two_zpow_add guess 52
  rw [← hpower] at hshort
  unfold exponentFor
  simp only [← hguess]
  -- The quotient lies between the power of two before the guess and the one behind it.
  split
  next h =>
    refine .max ?_ ?_
    · rw [show guess - 1 + 53 = guess + 52 by ring]
      exact hshort.mp h
    · rw [show guess - 1 + 52 = (num.log2 : ℤ) - den.log2 - 1 by omega]
      exact hlow
  next h =>
    refine .max ?_ ?_
    · rw [show guess + 53 = (num.log2 : ℤ) - den.log2 + 1 by omega]
      exact hhigh
    · exact not_lt.mp (hshort.not.mp h)

/-- The significand is rounded from the quotient over the power of two, by
natural numbers alone. -/
theorem isRounding_significand (num : ℕ) {den : ℕ} (hden : 0 < den) (e : ℤ) :
    IsRounding (num / den / 2 ^ e)
      (roundHalfEven (num * Nat.pow 2 (-e).toNat) (den * Nat.pow 2 e.toNat)) := by
  rw [← scaled_eq]
  exact isRounding_roundHalfEven (Nat.mul_pos hden (Nat.pow_pos (by decide)))

/-- There is no nearest double from the overflow on. Below it there is one,
and a quotient is rounded to it. -/
theorem nearest?_cases (num : ℕ) {den : ℕ} (hden : 0 < den) :
    (nearest? num den = none ∧ overflow ≤ num / den) ∨
      ∃ x, nearest? num den = some x ∧ IsNearest (num / den) x.value ∧ (num : ℚ) / den < overflow := by
  unfold nearest?
  split
  next hzero =>
    have hvalue : value ⟨0, 0⟩ = 0 := by simp [value]
    have hquotient : (num : ℚ) / den = 0 := by simp [hzero]
    refine .inr ⟨⟨0, 0⟩, rfl, ?_, ?_⟩
    · rw [hvalue, hquotient]
      exact .self isDouble_zero
    · rw [hquotient]
      exact overflow_pos
  next hnonzero =>
    have hfits := fitsExponent_exponentFor (Nat.pos_of_ne_zero hnonzero) hden
    have hrounding := isRounding_significand num hden (exponentFor num den)
    have hover := hfits.overflow_le_iff hrounding
    simp only
    split
    next h => exact .inl ⟨rfl, hover.mpr h⟩
    next h =>
      have hnearest := hfits.isNearest hrounding (by omega)
      exact .inr ⟨_, rfl, hnearest, not_le.mp (hover.not.mpr h)⟩

end Binary64

/-- Every number below the overflow has a nearest double, and it is the one
that is computed. -/
theorem exists_isNearest {q : ℚ} (hq : 0 ≤ q) (hlt : q < overflow) :
    ∃ x : Binary64, IsNearest q x.value := by
  have hquotient : ((q.num.toNat : ℕ) : ℚ) / q.den = q := by
    have hnum : ((q.num.toNat : ℤ) : ℚ) = q.num := by rw [Int.toNat_of_nonneg (Rat.num_nonneg.mpr hq)]
    rw [← Int.cast_natCast, hnum, Rat.num_div_den]
  have hcases := Binary64.nearest?_cases q.num.toNat q.den_pos
  rw [hquotient] at hcases
  rcases hcases with ⟨-, hover⟩ | ⟨x, -, hnearest, -⟩
  · exact absurd hlt (not_lt.mpr hover)
  · exact ⟨x, hnearest⟩

end MapBench
