import Mathlib.Data.Rat.Floor
import MapBench.Proofs.Number.Literal
import MapBench.Settings.Reading

/-!
# `MapBench.Proofs.Settings.ThinkTime`: how precisely pauses are read

A pause is rounded twice, first to a double and then to nanoseconds, and
the limits apply in between. Around an hour doubles are much closer to each
other than nanoseconds, so the first rounding hardly counts. Both keep the
order of numbers, hence so does the reader.

* `IsPause`: the duration of a number of seconds, if they are not refused.
* `readThinkTime_eq_ok_iff`, `readThinkTime_eq_error_iff`: literals are
  read that way.
* `IsPause.abs_sub_lt`, `IsPause.le`: precision and order.
* `readThinkTime_accurate_monotone`: the same for the texts that are read.
-/

set_option autoImplicit false

namespace MapBench

/-- A pause of so many seconds has a nearest double, which is zero if the
seconds are negative, and no more than an hour. The duration is rounded
from it. -/
def IsPause (v : ℚ) (d : Duration) : Prop :=
  ∃ x, IsNearest |v| x ∧ (v < 0 → x = 0) ∧ x ≤ 3600 ∧ IsRounding (x * 10 ^ 9) d.nanoseconds

/-! ### The doubles near the limits -/

/-- Up to an hour there are doubles at every `2 ^ (-40)` seconds. So the
first rounding is off by no more, which is less than a thousandth of a
nanosecond. -/
theorem IsNearest.abs_sub_le {q x : ℚ} (h : IsNearest q x) (hnonneg : 0 ≤ q) (hle : q ≤ 3600) :
    |x - q| ≤ 2 ^ (-40 : ℤ) := by
  have hsteps : (2 : ℚ) ^ (-40 : ℤ) = 1 / 2 ^ 40 := by norm_num
  obtain ⟨m, hm⟩ : ∃ m : ℕ, m = ⌊q * 2 ^ 40⌋₊ := ⟨_, rfl⟩
  have hfloor : (m : ℚ) ≤ q * 2 ^ 40 := hm ▸ Nat.floor_le (by positivity)
  have hceil : q * 2 ^ 40 < m + 1 := hm ▸ Nat.lt_floor_add_one _
  have hdouble : IsDouble (m * 2 ^ (-40 : ℤ)) := by
    refine isDouble_of_lt ?_ (by decide) (by decide)
    have : (m : ℚ) < 2 ^ 53 := by linarith
    exact_mod_cast this
  calc |x - q| ≤ |m * 2 ^ (-40 : ℤ) - q| := h.nearest _ hdouble
    _ ≤ 2 ^ (-40 : ℤ) := by
      rw [hsteps]
      exact abs_le.mpr ⟨by linarith, by linarith⟩

/-- An hour is a double, so the limit itself isn't rounded. -/
theorem isDouble_hour : IsDouble 3600 := by
  have := isDouble_of_lt (m := 3600) (e := 0) (by decide) (by decide) (by decide)
  simpa using this

/-- The doubles reach much closer to zero than `10 ^ (-300)`. So nothing
that far below zero is rounded to zero. -/
theorem exists_isDouble_le_tiny : ∃ x, IsDouble x ∧ 0 < x ∧ x ≤ 10 ^ (-300 : ℤ) := by
  refine ⟨2 ^ (-1000 : ℤ), ?_, two_zpow_pos _, ?_⟩
  · have := isDouble_of_lt (m := 1) (e := -1000) (by decide) (by decide) (by decide)
    simpa using this
  · rw [zpow_neg, zpow_neg, inv_le_inv₀ (by positivity) (by positivity), zpow_ofNat, zpow_ofNat]
    exact_mod_cast (by decide +kernel : 10 ^ 300 ≤ 2 ^ 1000)

/-- The next double after an hour is less than a nanosecond away. So nothing
a nanosecond later is rounded to an hour. -/
theorem exists_isDouble_after_hour : ∃ x, IsDouble x ∧ 3600 < x ∧ x ≤ 3600 + 10 ^ (-9 : ℤ) := by
  refine ⟨(3600 * 2 ^ 40 + 1 : ℕ) * 2 ^ (-40 : ℤ), isDouble_of_lt (by decide) (by decide) (by decide), ?_, ?_⟩
  · norm_num
  · norm_num

/-- Around an hour there is always a nearest double. -/
theorem after_hour_lt_overflow : (3600 : ℚ) + 10 ^ (-9 : ℤ) < overflow :=
  calc (3600 : ℚ) + 10 ^ (-9 : ℤ) ≤ 2 ^ (12 : ℤ) := by norm_num
    _ ≤ 2 ^ (1023 : ℤ) := zpow_le_zpow_right₀ (by norm_num) (by norm_num)
    _ < overflow := two_pow_lt_overflow

/-! ### Pauses -/

/-- A duration is rounded from a double, to nanoseconds. This is the second
rounding. -/
theorem isRounding_ofBinary64 (x : Binary64) :
    IsRounding (x.value * 10 ^ 9) (Duration.ofBinary64 x).nanoseconds := by
  have hquotient : x.value * 10 ^ 9 = (x.numerator * nanosPerSecond : ℕ) / x.denominator := by
    rw [← x.numerator_div_denominator, nanosPerSecond]
    push_cast
    ring
  rw [hquotient]
  exact isRounding_roundHalfEven x.denominator_pos

namespace IsPause

variable {v w : ℚ} {d d' : Duration}

/-- Negative seconds are rounded as if they were none. Only those that are
nearest to zero get this far. -/
theorem exists_isNearest_max (h : IsPause v d) :
    ∃ x, IsNearest (max v 0) x ∧ IsRounding (x * 10 ^ 9) d.nanoseconds := by
  obtain ⟨x, hnearest, hneg, -, hrounding⟩ := h
  refine ⟨x, ?_, hrounding⟩
  rcases lt_or_ge v 0 with hlt | hge
  · rw [max_eq_right hlt.le, hneg hlt]
    exact .self isDouble_zero
  · rwa [max_eq_left hge, ← abs_of_nonneg hge]

/-- More seconds are no shorter. Both roundings keep the order, and so does
treating negative seconds as none. -/
theorem le (h : IsPause v d) (h' : IsPause w d') (hvw : v ≤ w) : d.nanoseconds ≤ d'.nanoseconds := by
  obtain ⟨x, hx, hd⟩ := h.exists_isNearest_max
  obtain ⟨y, hy, hd'⟩ := h'.exists_isNearest_max
  have hxy : x ≤ y := hx.le hy (max_le_max_right 0 hvw)
  exact hd.le hd' (by linarith)

/-- The seconds of a pause determine its duration. -/
theorem unique (h : IsPause v d) (h' : IsPause v d') : d = d' := by
  have hequal := le_antisymm (h.le h' le_rfl) (h'.le h le_rfl)
  cases d
  cases d'
  exact congrArg Duration.mk hequal

/-- No pause is longer than an hour. The double isn't, and an hour is a
whole number of nanoseconds. -/
theorem nanoseconds_le (h : IsPause v d) : d.nanoseconds ≤ 3600 * 10 ^ 9 := by
  obtain ⟨x, -, -, hhour, hrounding⟩ := h
  refine hrounding.le (.self _) ?_
  push_cast
  linarith

/-- A nanosecond after an hour is too late. -/
theorem abs_lt (h : IsPause v d) : |v| < 3600 + 10 ^ (-9 : ℤ) := by
  obtain ⟨x, hnearest, -, hhour, -⟩ := h
  obtain ⟨y, hy, hafter, hnanosecond⟩ := exists_isDouble_after_hour
  by_contra hlate
  have hyx : y ≤ x := (IsNearest.self hy).le hnearest (hnanosecond.trans (not_lt.mp hlate))
  linarith

/-- The two roundings together miss the seconds by less than a
nanosecond. -/
theorem abs_sub_lt (h : IsPause v d) (hnonneg : 0 ≤ v) (hhour : v ≤ 3600) :
    |d.nanoseconds - v * 10 ^ 9| < 1 := by
  obtain ⟨x, hnearest, -, -, hrounding⟩ := h
  rw [abs_of_nonneg hnonneg] at hnearest
  have hdouble : |x * 10 ^ 9 - v * 10 ^ 9| ≤ 2 ^ (-40 : ℤ) * 10 ^ 9 := by
    rw [← sub_mul, abs_mul, abs_of_pos (by norm_num : (0 : ℚ) < 10 ^ 9)]
    exact mul_le_mul_of_nonneg_right (hnearest.abs_sub_le hnonneg hhour) (by norm_num)
  calc |d.nanoseconds - v * 10 ^ 9|
      ≤ |d.nanoseconds - x * 10 ^ 9| + |x * 10 ^ 9 - v * 10 ^ 9| := abs_sub_le _ _ _
    _ ≤ 1 / 2 + 2 ^ (-40 : ℤ) * 10 ^ 9 := add_le_add hrounding.near hdouble
    _ < 1 := by norm_num

end IsPause

/-- What lies within the limits is never refused. Rounding can't take it out
of them, since both limits are doubles. -/
theorem exists_isPause {v : ℚ} (hnonneg : 0 ≤ v) (hhour : v ≤ 3600) : ∃ d, IsPause v d := by
  have hnano : (0 : ℚ) < 10 ^ (-9 : ℤ) := by positivity
  obtain ⟨x, hx⟩ := exists_isNearest hnonneg (lt_of_le_of_lt (by linarith [hnano]) after_hour_lt_overflow)
  refine ⟨.ofBinary64 x, x.value, ?_, fun hneg => absurd hneg (not_lt.mpr hnonneg), ?_, isRounding_ofBinary64 x⟩
  · rwa [abs_of_nonneg hnonneg]
  · exact hx.le (.self isDouble_hour) hhour

/-- What lies clearly outside of the limits is refused. Close to a limit,
what the nearest double is decides. -/
theorem not_isPause {v : ℚ} (h : v ≤ -10 ^ (-300 : ℤ) ∨ 3600 + 10 ^ (-9 : ℤ) ≤ v) (d : Duration) :
    ¬ IsPause v d := by
  intro hpause
  rcases h with hlow | hhigh
  · obtain ⟨x, hnearest, hneg, -⟩ := hpause
    have hv : v < 0 := hlow.trans_lt (neg_neg_of_pos (by positivity))
    obtain ⟨y, hy, hpos, htiny⟩ := exists_isDouble_le_tiny
    have hyx : y ≤ x := (IsNearest.self hy).le hnearest (by rw [abs_of_neg hv]; linarith)
    exact absurd (hneg hv) (hpos.trans_le hyx).ne'
  · exact absurd ((le_abs_self v).trans_lt hpause.abs_lt) (not_lt.mpr hhigh)

/-! ### The reader -/

/-- Literals are taken if their double is within the limits. A negative one
is taken if it is zero or rounded to zero. -/
theorem readThinkTime_of_magnitude? {text : String} {l : Literal} {x : Binary64}
    (hl : Literal.parse? text.toList = some l) (hx : l.magnitude? = some x)
    (hnearest : IsNearest l.magnitude x.value) :
    readThinkTime text =
      if (l.value < 0 → x.value = 0) ∧ x.value ≤ 3600 then .ok (.ofBinary64 x)
      else .error (.badThinkTime text) := by
  have hzero : l.magnitude = 0 → x.value = 0 := fun h => by
    rw [h] at hnearest
    exact hnearest.unique (.self isDouble_zero)
  have hlimit := Binary64.lt_value_iff maxThinkSeconds x
  have hrefused : ((l.negative && !x.isZero) || maxThinkSeconds * x.denominator < x.numerator) = true ↔
      ¬ ((l.value < 0 → x.value = 0) ∧ x.value ≤ 3600) := by
    rw [Bool.or_eq_true, Bool.and_eq_true, Bool.not_eq_true', ← Bool.not_eq_true, Binary64.isZero_iff,
      decide_eq_true_iff, hlimit, l.value_neg_iff, not_and_or, not_le, Classical.not_imp]
    refine or_congr ?_ (by norm_num [maxThinkSeconds])
    constructor
    · rintro ⟨hneg, hne⟩
      exact ⟨⟨hneg, fun h => hne (hzero h)⟩, hne⟩
    · rintro ⟨⟨hneg, -⟩, hne⟩
      exact ⟨hneg, hne⟩
  unfold readThinkTime
  simp only [hl, hx]
  rw [if_congr hrefused rfl rfl, ite_not]

/-- A literal whose seconds are a pause is taken. All other texts are
refused, for one reason. -/
theorem readThinkTime_cases (text : String) :
    (∃ v d, SpellsRational text.toList v ∧ IsPause v d ∧ readThinkTime text = .ok d) ∨
      (∀ v d, SpellsRational text.toList v → ¬ IsPause v d) ∧
        readThinkTime text = .error (.badThinkTime text) := by
  cases hl : Literal.parse? text.toList with
  | none =>
    refine .inr ⟨fun v d hspelled => ?_, by simp only [readThinkTime, hl]⟩
    obtain ⟨l, hl', -⟩ := spellsRational_iff.mp hspelled
    cases hl.symm.trans hl'
  | some l =>
    have hspelled : SpellsRational text.toList l.value := spellsRational_iff.mpr ⟨l, hl, rfl⟩
    -- The text spells no other number.
    have hnone (hpause : ∀ d, ¬ IsPause l.value d) :
        ∀ v d, SpellsRational text.toList v → ¬ IsPause v d :=
      fun v d hv => hspelled.unique hv ▸ hpause d
    rcases l.magnitude?_cases with ⟨hinfinite, hover⟩ | ⟨x, hx, hnearest, -⟩
    · refine .inr ⟨hnone fun d hpause => ?_, by simp only [readThinkTime, hl, hinfinite]⟩
      have hlt := hpause.abs_lt.trans after_hour_lt_overflow
      rw [l.abs_value] at hlt
      exact absurd hlt (not_lt.mpr hover)
    · rw [readThinkTime_of_magnitude? hl hx hnearest]
      rw [← l.abs_value] at hnearest
      by_cases hlimits : (l.value < 0 → x.value = 0) ∧ x.value ≤ 3600
      · exact .inl ⟨l.value, _, hspelled,
          ⟨x.value, hnearest, hlimits.1, hlimits.2, isRounding_ofBinary64 x⟩, if_pos hlimits⟩
      · refine .inr ⟨hnone fun d hpause => ?_, if_neg hlimits⟩
        obtain ⟨y, hy, hneg, hhour, -⟩ := hpause
        rw [hy.unique hnearest] at hneg hhour
        exact hlimits ⟨hneg, hhour⟩

/-- The texts that are taken spell the seconds of a pause, and that pause is
what they are read as. -/
theorem readThinkTime_eq_ok_iff {text : String} {d : Duration} :
    readThinkTime text = .ok d ↔ ∃ v, SpellsRational text.toList v ∧ IsPause v d := by
  constructor
  · intro hread
    rcases readThinkTime_cases text with ⟨v, d', hv, hpause, hread'⟩ | ⟨-, hread'⟩
    · cases hread.symm.trans hread'
      exact ⟨v, hv, hpause⟩
    · cases hread.symm.trans hread'
  · rintro ⟨v, hv, hpause⟩
    rcases readThinkTime_cases text with ⟨v', d', hv', hpause', hread⟩ | ⟨hnone, -⟩
    · rw [hv'.unique hv] at hpause'
      rw [hread, hpause.unique hpause']
    · exact absurd hpause (hnone v d hv)

/-- All others are refused with one complaint that repeats the text. -/
theorem readThinkTime_eq_error_iff {text : String} {e : SettingsError} :
    readThinkTime text = .error e ↔
      e = .badThinkTime text ∧ ∀ v d, SpellsRational text.toList v → ¬ IsPause v d := by
  constructor
  · intro hread
    rcases readThinkTime_cases text with ⟨v, d, -, -, hread'⟩ | ⟨hnone, hread'⟩
    · cases hread.symm.trans hread'
    · cases hread.symm.trans hread'
      exact ⟨rfl, hnone⟩
  · rintro ⟨rfl, hnone⟩
    rcases readThinkTime_cases text with ⟨v, d, hv, hpause, -⟩ | ⟨-, hread⟩
    · exact absurd hpause (hnone v d hv)
    · exact hread

/-- A pause within the limits is read with an error below one nanosecond,
and one clearly outside is refused. More seconds are never read as less,
and nothing as more than an hour. What spells no number is refused. -/
theorem readThinkTime_accurate_monotone :
    (∀ text v, SpellsRational text.toList v → 0 ≤ v → v ≤ 3600 →
      ∃ d, readThinkTime text = .ok d ∧ |d.nanoseconds - v * 10 ^ 9| < 1) ∧
    (∀ text v, SpellsRational text.toList v → v ≤ -10 ^ (-300 : ℤ) ∨ 3600 + 10 ^ (-9 : ℤ) ≤ v →
      readThinkTime text = .error (.badThinkTime text)) ∧
    (∀ text text' v v' d d', SpellsRational text.toList v → SpellsRational text'.toList v' →
      readThinkTime text = .ok d → readThinkTime text' = .ok d' → v ≤ v' →
      d.nanoseconds ≤ d'.nanoseconds) ∧
    (∀ text d, readThinkTime text = .ok d →
      d.nanoseconds ≤ 3600 * 10 ^ 9 ∧ d.subsecond < 10 ^ 9 ∧
        d.nanoseconds = d.seconds * 10 ^ 9 + d.subsecond) ∧
    (∀ text, (∀ v, ¬ SpellsRational text.toList v) →
      readThinkTime text = .error (.badThinkTime text)) ∧
    ∀ text d, readThinkTime text = .ok d ↔ ∃ v, SpellsRational text.toList v ∧ IsPause v d := by
  -- A text spells one number, so all that is said of pauses is said of what was read.
  have hpauses {text v d} (hv : SpellsRational text.toList v) (hread : readThinkTime text = .ok d) :
      IsPause v d := by
    obtain ⟨w, hw, hpause⟩ := readThinkTime_eq_ok_iff.mp hread
    rwa [hv.unique hw]
  refine ⟨?accurate, ?refused, ?monotone, ?bounded, ?others, fun _ _ => readThinkTime_eq_ok_iff⟩
  case accurate =>
    intro text v hv hnonneg hhour
    obtain ⟨d, hpause⟩ := exists_isPause hnonneg hhour
    exact ⟨d, readThinkTime_eq_ok_iff.mpr ⟨v, hv, hpause⟩, hpause.abs_sub_lt hnonneg hhour⟩
  case refused =>
    intro text v hv houtside
    refine readThinkTime_eq_error_iff.mpr ⟨rfl, fun w d hw => ?_⟩
    exact hv.unique hw ▸ not_isPause houtside d
  case monotone =>
    intro text text' v v' d d' hv hv' hread hread' hle
    exact (hpauses hv hread).le (hpauses hv' hread') hle
  case bounded =>
    intro text d hread
    obtain ⟨v, -, hpause⟩ := readThinkTime_eq_ok_iff.mp hread
    exact ⟨hpause.nanoseconds_le, Nat.mod_lt _ (by decide), (Nat.div_add_mod' ..).symm⟩
  case others =>
    intro text hnone
    exact readThinkTime_eq_error_iff.mpr ⟨rfl, fun v d hv => absurd hv (hnone v)⟩

/-- Half a second is read, and ten seconds more than an hour are not. -/
theorem readThinkTime_accurate_half :
    SpellsRational "0.5".toList (1 / 2) ∧ SpellsRational "3610".toList 3610 ∧
      (∃ d, readThinkTime "0.5" = .ok d ∧ |d.nanoseconds - (1 / 2 : ℚ) * 10 ^ 9| < 1) ∧
      readThinkTime "3610" = .error (.badThinkTime "3610") := by
  have hhalf : SpellsRational "0.5".toList (1 / 2) :=
    spellsRational_iff.mpr ⟨⟨false, 5, -1⟩, by decide, by norm_num [Literal.value, Literal.magnitude]⟩
  have hlate : SpellsRational "3610".toList 3610 :=
    spellsRational_iff.mpr ⟨⟨false, 3610, 0⟩, by decide, by norm_num [Literal.value, Literal.magnitude]⟩
  obtain ⟨accurate, refused, -⟩ := readThinkTime_accurate_monotone
  exact ⟨hhalf, hlate, accurate _ _ hhalf (by norm_num) (by norm_num),
    refused _ _ hlate (.inr (by norm_num))⟩

end MapBench
