import Mathlib.Algebra.Order.Field.Basic
import Mathlib.Algebra.Ring.Parity
import Mathlib.Data.Rat.Cast.Order
import Mathlib.Tactic.FieldSimp
import Mathlib.Tactic.Linarith
import Mathlib.Tactic.Ring
import MapBench.Number.Binary64

/-!
# `MapBench.Proofs.Number.Rounding`: rounding to the nearest whole number

Rounding is determined by two rules: a number moves by at most one half,
and by exactly one half only to an even number. Whatever obeys them is
nearest, and keeps the order of numbers.

* `IsRounding`: the two rules.
* `isRounding_roundHalfEven`: quotients are rounded by them.
* `IsRounding.nearest`, `IsRounding.le`: what follows from them.
-/

set_option autoImplicit false

namespace MapBench

/-- A whole number that a rational number is rounded to. The two rules leave
one number for each. -/
structure IsRounding (q : ℚ) (r : ℕ) : Prop where
  near : |r - q| ≤ 1 / 2
  even_of_tie : |r - q| = 1 / 2 → Even r

/-- What is nearer than one half needs no tie. -/
theorem IsRounding.of_lt {q : ℚ} {r : ℕ} (h : |r - q| < 1 / 2) : IsRounding q r :=
  ⟨h.le, fun htie => absurd htie h.ne⟩

/-- A quotient is rounded by the two rules. The remainder says which side of
one half it is on, and a tie goes to the even neighbour. -/
theorem isRounding_roundHalfEven {num den : ℕ} (hden : 0 < den) :
    IsRounding (num / den) (roundHalfEven num den) := by
  have hden' : (0 : ℚ) < den := by exact_mod_cast hden
  -- The quotient is a whole number and a fraction of one.
  obtain ⟨rest, hrest⟩ : ∃ rest : ℚ, rest = (num % den : ℕ) / den := ⟨_, rfl⟩
  have hquotient : (num : ℚ) / den = (num / den : ℕ) + rest := by
    have hsplit : (num : ℚ) = den * (num / den : ℕ) + (num % den : ℕ) := by
      exact_mod_cast (Nat.div_add_mod num den).symm
    rw [hrest]
    field_simp
    linarith
  have hnonneg : 0 ≤ rest := by
    rw [hrest]
    positivity
  have hlt : rest < 1 := by
    rw [hrest, div_lt_one hden']
    exact_mod_cast Nat.mod_lt num hden
  have htwice : rest * (2 * den) = (2 * (num % den) : ℕ) := by
    rw [hrest]
    push_cast
    field_simp
  rw [hquotient]
  unfold roundHalfEven
  simp only
  -- The three cases of the definition: below one half, a tie, and above.
  rcases lt_trichotomy (2 * (num % den)) den with hlow | htie | hhigh
  · have hhalf : rest < 1 / 2 := by
      have : ((2 * (num % den) : ℕ) : ℚ) < den := by exact_mod_cast hlow
      nlinarith
    rw [if_pos hlow]
    exact .of_lt (abs_lt.mpr ⟨by linarith, by linarith⟩)
  · have hhalf : rest = 1 / 2 := by
      have : ((2 * (num % den) : ℕ) : ℚ) = den := by exact_mod_cast htie
      nlinarith
    rw [if_neg (by omega), if_neg (by omega), hhalf]
    rcases Nat.even_or_odd (num / den) with heven | hodd
    · rw [Nat.even_iff.mp heven, Nat.add_zero]
      refine ⟨?_, fun _ => heven⟩
      rw [abs_of_nonpos] <;> linarith
    · rw [Nat.odd_iff.mp hodd]
      refine ⟨?_, fun _ => hodd.add_one⟩
      push_cast
      rw [abs_of_nonneg] <;> linarith
  · have hhalf : 1 / 2 < rest := by
      have : (den : ℚ) < (2 * (num % den) : ℕ) := by exact_mod_cast hhigh
      nlinarith
    rw [if_neg (by omega), if_pos hhigh]
    refine .of_lt (abs_lt.mpr ⟨?_, ?_⟩) <;> push_cast <;> linarith

/-- Two whole numbers are at least one apart, so a number between them is
not near to both. -/
theorem one_le_abs_sub_add_abs_sub {k r : ℤ} (h : k ≠ r) (q : ℚ) : 1 ≤ |k - q| + |r - q| := by
  have hone : (1 : ℚ) ≤ |(k : ℚ) - r| := by
    exact_mod_cast Int.one_le_abs (sub_ne_zero.mpr h)
  have htriangle := abs_sub_le (k : ℚ) q r
  rw [abs_sub_comm q] at htriangle
  linarith

namespace IsRounding

variable {p q : ℚ} {r s : ℕ}

/-- A whole number is rounded to itself. -/
theorem self (n : ℕ) : IsRounding n n where
  near := by simp
  even_of_tie h := by simp at h

/-- No whole number is nearer. Any other is at least one away from the
rounded one, so at least one half from the number. -/
theorem nearest (h : IsRounding q r) (k : ℤ) : |r - q| ≤ |k - q| := by
  by_cases hk : k = r
  · rw [hk, Int.cast_natCast]
  · have hapart := one_le_abs_sub_add_abs_sub hk q
    have hnear := h.near
    rw [Int.cast_natCast] at hapart
    linarith

/-- Of two equally near whole numbers it is the even one. -/
theorem even_of_equally_near (h : IsRounding q r) {k : ℤ} (hk : k ≠ r)
    (hequal : |(k : ℚ) - q| = |r - q|) : Even r := by
  have hapart := one_le_abs_sub_add_abs_sub hk q
  rw [Int.cast_natCast, hequal] at hapart
  exact h.even_of_tie (le_antisymm h.near (by linarith))

/-- Rounding keeps the order of numbers. If it didn't, both would be ties
between the same neighbours, and only one of these is even. -/
theorem le (hq : IsRounding q r) (hp : IsRounding p s) (hqp : q ≤ p) : r ≤ s := by
  by_contra hlt
  have hstep : (s : ℚ) + 1 ≤ r := by exact_mod_cast Nat.lt_of_not_le hlt
  have hr := abs_le.mp hq.near
  have hs := abs_le.mp hp.near
  -- Then both numbers lie in the middle of two neighbours, and both neighbours are even.
  have hr_eq : (r : ℚ) = s + 1 := by linarith
  have hreven : Even r := hq.even_of_tie (by rw [abs_of_nonneg] <;> linarith)
  have hseven : Even s := hp.even_of_tie (by rw [abs_of_nonpos] <;> linarith)
  have : r = s + 1 := by exact_mod_cast hr_eq
  exact Nat.not_even_iff_odd.mpr hseven.add_one (this ▸ hreven)

/-- There is only one number that obeys the rules. -/
theorem unique (hr : IsRounding q r) (hs : IsRounding q s) : r = s :=
  le_antisymm (hr.le hs le_rfl) (hs.le hr le_rfl)

end IsRounding

end MapBench
