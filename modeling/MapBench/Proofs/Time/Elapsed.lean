import MapBench.Proofs.Batch.Words
import MapBench.Proofs.Number.Literal
import MapBench.Time.Timestamp

/-!
# `MapBench.Proofs.Time.Elapsed`: elapsed time is exact

Seconds and nanoseconds are subtracted apart from each other, in words. The
order of timestamps is what makes this work: where nanoseconds have to be
borrowed, it has already shown that there is a second to take them from.

* `Timestamp.order_eq_compare`: the order is that of nanoseconds in all.
* `Elapsed.betweenInWords`: the subtractions, each of which could fail.
* `Elapsed.betweenInWords_eq`, `Elapsed.total_between`: none does, and
  together they make the difference of the nanoseconds in all.
* `Elapsed.spells_chars`: the text of an elapsed time spells it.
* `Elapsed.exact_between`: all of it.
-/

set_option autoImplicit false

namespace MapBench

/-- Seconds and nanoseconds are told by what they make together, as long as
the nanoseconds make less than a second. -/
theorem seconds_nanos_inj {s s' : UInt64} {n n' : UInt32} (hn : n.toNat < 1000000000)
    (hn' : n'.toNat < 1000000000) :
    s.toNat * 1000000000 + n.toNat = s'.toNat * 1000000000 + n'.toNat ↔ s = s' ∧ n = n' := by
  constructor
  · intro h
    exact ⟨UInt64.toNat_inj.mp (by omega), UInt32.toNat_inj.mp (by omega)⟩
  · rintro ⟨rfl, rfl⟩
    rfl

namespace Timestamp

variable (a b : Timestamp)

/-- The nanoseconds make less than a second. A timestamp can't be made
otherwise. -/
theorem nanos_toNat_lt : a.nanos.toNat < 1000000000 :=
  UInt32.lt_iff_toNat_lt.mp a.nanos_lt

/-- Timestamps are told apart by their nanoseconds in all, as those beside
the seconds make less than one. -/
theorem total_inj : a.total = b.total ↔ a = b := by
  rw [total, total, seconds_nanos_inj a.nanos_toNat_lt b.nanos_toNat_lt]
  cases a
  cases b
  simp

/-- Of two timestamps the one with fewer nanoseconds in all is earlier. They
are compared by seconds first, and the nanoseconds count only for equal
seconds. -/
theorem order_eq_compare : a.order b = compare a.total b.total := by
  have ha := a.nanos_toNat_lt
  have hb := b.nanos_toNat_lt
  have hseconds : compare a.seconds b.seconds = compare a.seconds.toNat b.seconds.toNat := by
    simp only [compare, compareOfLessAndEq, UInt64.lt_iff_toNat_lt, UInt64.toNat_inj]
  have hnanos : compare a.nanos b.nanos = compare a.nanos.toNat b.nanos.toNat := by
    simp only [compare, compareOfLessAndEq, UInt32.lt_iff_toNat_lt, UInt32.toNat_inj]
  rw [order, hseconds, hnanos]
  -- Different seconds decide, since the nanoseconds can't make up for one.
  rcases Nat.lt_trichotomy a.seconds.toNat b.seconds.toNat with hlt | heq | hgt
  · have : a.total < b.total := by simp only [total]; omega
    rw [Nat.compare_eq_lt.mpr hlt, Nat.compare_eq_lt.mpr this]
    rfl
  · have : compare a.total b.total = compare a.nanos.toNat b.nanos.toNat := by
      simp only [total, heq, compare, compareOfLessAndEq, Nat.add_lt_add_iff_left, Nat.add_left_cancel_iff]
    rw [Nat.compare_eq_eq.mpr heq, this]
    rfl
  · have : b.total < a.total := by simp only [total]; omega
    rw [Nat.compare_eq_gt.mpr hgt, Nat.compare_eq_gt.mpr this]
    rfl

/-- Only a timestamp itself is neither earlier nor later. -/
theorem order_eq_eq_iff : a.order b = .eq ↔ a = b := by
  rw [order_eq_compare, Nat.compare_eq_eq, total_inj]

/-- A timestamp is earlier if it has fewer nanoseconds in all. -/
theorem order_eq_lt_iff : a.order b = .lt ↔ a.total < b.total := by
  rw [order_eq_compare, Nat.compare_eq_lt]

/-- It isn't later if it has no more of them. -/
theorem order_ne_gt_iff : a.order b ≠ .gt ↔ a.total ≤ b.total := by
  rw [order_eq_compare, Nat.compare_ne_gt]

end Timestamp

/-- The largest word of 32 bits. Nanoseconds are kept in such words, where
there is room for a little more than four seconds. -/
def maxHalfWord : Nat := 0xFFFFFFFF

/-- A difference that isn't below zero is that of the words. -/
theorem difference?_word {a b : UInt64} (h : b.toNat ≤ a.toNat) :
    difference? a.toNat b.toNat = some (a - b).toNat := by
  rw [difference?, if_pos h, UInt64.toNat_sub_of_le _ _ (UInt64.le_iff_toNat_le.mpr h)]

/-- The same for the words that nanoseconds are kept in. -/
theorem difference?_halfWord {a b : UInt32} (h : b.toNat ≤ a.toNat) :
    difference? a.toNat b.toNat = some (a - b).toNat := by
  rw [difference?, if_pos h, UInt32.toNat_sub_of_le _ _ (UInt32.le_iff_toNat_le.mpr h)]

/-- So is a sum that is small enough. A second and less than another one
are. -/
theorem sum?_halfWord {a b : UInt32} (h : a.toNat + b.toNat ≤ maxHalfWord) :
    sum? maxHalfWord a.toNat b.toNat = some (a + b).toNat := by
  have hlt : a.toNat + b.toNat < 2 ^ 32 := Nat.lt_succ_of_le h
  rw [sum?_eq_some h, UInt32.toNat_add, Nat.mod_eq_of_lt hlt]

namespace Elapsed

variable (start stop : Timestamp)

/-- The seconds and nanoseconds between two timestamps. There is no result
if a step leaves its range, which is that of the seconds or that of the
nanoseconds. -/
def betweenInWords : Option (Nat × Nat) :=
  if stop.order start = .lt then
    some (0, 0)
  else if stop.nanos < start.nanos then do
    let seconds ← difference? stop.seconds.toNat start.seconds.toNat
    let seconds ← difference? seconds 1
    let nanos ← sum? maxHalfWord stop.nanos.toNat 1000000000
    let nanos ← difference? nanos start.nanos.toNat
    return (seconds, nanos)
  else do
    let seconds ← difference? stop.seconds.toNat start.seconds.toNat
    let nanos ← difference? stop.nanos.toNat start.nanos.toNat
    return (seconds, nanos)

/-- No step leaves its range, and the words hold the result. The order of
the timestamps is what shows it, once for the seconds and once for the one
that is borrowed. -/
theorem betweenInWords_eq : betweenInWords start stop =
    some ((between start stop).seconds.toNat, (between start stop).nanos.toNat) := by
  have hstart := start.nanos_toNat_lt
  have hstop := stop.nanos_toNat_lt
  rw [betweenInWords, between]
  split
  next => rfl
  next horder =>
    rw [stop.order_eq_lt_iff, Nat.not_lt, Timestamp.total, Timestamp.total] at horder
    have hseconds : start.seconds.toNat ≤ stop.seconds.toNat := by omega
    rw [difference?_word hseconds]
    split
    next hborrow =>
      rw [UInt32.lt_iff_toNat_lt] at hborrow
      -- With equal seconds the nanoseconds would be in the wrong order.
      have hlent : difference? (stop.seconds - start.seconds).toNat 1 =
          some (stop.seconds - start.seconds - 1).toNat := by
        refine difference?_word (b := 1) ?_
        rw [UInt64.toNat_sub_of_le _ _ (UInt64.le_iff_toNat_le.mpr hseconds), UInt64.toNat_one]
        omega
      have hsmall : (1000000000 : UInt32).toNat = 1000000000 := by decide
      have hroom : stop.nanos.toNat + 1000000000 ≤ maxHalfWord := by
        rw [maxHalfWord]
        omega
      have hborrowed : sum? maxHalfWord stop.nanos.toNat 1000000000 =
          some (stop.nanos + 1000000000).toNat := by
        have hsum := sum?_halfWord (a := stop.nanos) (b := 1000000000) (by rwa [hsmall])
        rwa [hsmall] at hsum
      have hrest : start.nanos.toNat ≤ (stop.nanos + 1000000000).toNat := by
        rw [sum?_eq_some hroom] at hborrowed
        rw [← Option.some.inj hborrowed]
        omega
      simp only [Option.bind_eq_bind, Option.bind_some, hlent, hborrowed, difference?_halfWord hrest]
      rfl
    next hless =>
      rw [UInt32.lt_iff_toNat_lt, Nat.not_lt] at hless
      rw [difference?_halfWord hless]
      rfl

/-- What the steps make together: the difference of the nanoseconds in all,
cut into seconds and what is left. -/
theorem parts_of_betweenInWords {seconds nanos : Nat}
    (h : betweenInWords start stop = some (seconds, nanos)) :
    nanos < 1000000000 ∧ seconds * 1000000000 + nanos = stop.total - start.total := by
  have hstart := start.nanos_toNat_lt
  have hstop := stop.nanos_toNat_lt
  rw [betweenInWords] at h
  -- In the wrong order there is nothing between the timestamps.
  split at h
  next horder =>
    rw [stop.order_eq_lt_iff] at horder
    cases h
    omega
  next horder =>
    simp only [Timestamp.total]
    split at h
    next hborrow =>
      rw [UInt32.lt_iff_toNat_lt] at hborrow
      simp only [Option.bind_eq_bind, Option.bind_eq_some_iff, difference?_eq_some_iff, sum?_eq_some_iff] at h
      obtain ⟨_, ⟨hseconds, rfl⟩, _, ⟨hlent, rfl⟩, _, ⟨-, rfl⟩, _, ⟨-, rfl⟩, hresult⟩ := h
      cases hresult
      omega
    next hless =>
      simp only [Option.bind_eq_bind, Option.bind_eq_some_iff, difference?_eq_some_iff] at h
      obtain ⟨_, ⟨hseconds, rfl⟩, _, ⟨hnanos, rfl⟩, hresult⟩ := h
      cases hresult
      omega

/-- The nanoseconds between two timestamps make less than a second, with or
without one that was borrowed. -/
theorem nanos_between_lt : (between start stop).nanos.toNat < 1000000000 :=
  (parts_of_betweenInWords start stop (betweenInWords_eq start stop)).1

/-- A clock that went backwards gives zero, since there are no negative
numbers of nanoseconds. -/
theorem total_between : (between start stop).total = stop.total - start.total :=
  (parts_of_betweenInWords start stop (betweenInWords_eq start stop)).2

/-! ### The text of an elapsed time -/

variable {e f : Elapsed}

/-- Elapsed times are told apart by their nanoseconds in all. -/
theorem total_inj (he : e.nanos.toNat < 1000000000) (hf : f.nanos.toNat < 1000000000) :
    e.total = f.total ↔ e = f := by
  rw [total, total, seconds_nanos_inj he hf]
  cases e
  cases f
  simp

/-- The text spells the seconds that elapsed, as a number with nine places
behind the point. -/
theorem spells_chars (he : e.nanos.toNat < 1000000000) : SpellsRational e.chars (e.total / 10 ^ 9) := by
  have hne : Decimal.digits e.seconds.toNat ≠ [] := Nat.toDigits_ne_nil
  have hdigits : ∀ c ∈ Decimal.digits e.seconds.toNat, c.isDigit := fun _ => Decimal.digits_isDigit
  have hfraction : ∀ c ∈ Decimal.padded 9 e.nanos.toNat, c.isDigit := Decimal.padded_isDigit
  have hmantissa := IsMantissa.pointed (.inl hne) hdigits hfraction
  rw [Decimal.length_padded he (by decide), ← Decimal.value_eq_placeValue, Decimal.value_digits,
    ← Decimal.value_eq_placeValue, Decimal.value_padded] at hmantissa
  have hspells := SpellsRational.unsigned (.scaled hmantissa .none)
  rw [List.append_nil, zpow_zero, mul_one] at hspells
  have hvalue : (e.seconds.toNat : ℚ) + e.nanos.toNat / 10 ^ 9 = e.total / 10 ^ 9 := by
    rw [total]
    push_cast
    ring
  rwa [hvalue] at hspells

/-- Elapsed times are told apart by their texts. The number that a text
spells gives back the nanoseconds in all. -/
theorem text_inj (he : e.nanos.toNat < 1000000000) (hf : f.nanos.toNat < 1000000000) :
    e.text = f.text ↔ e = f := by
  constructor
  · intro h
    have hspells := spells_chars he
    rw [String.ofList_injective h] at hspells
    have hequal : (e.total : ℚ) / 10 ^ 9 = f.total / 10 ^ 9 := hspells.unique (spells_chars hf)
    rw [div_left_inj' (by norm_num), Nat.cast_inj, total_inj he hf] at hequal
    exact hequal
  · rintro rfl
    rfl

/-- The order of timestamps is that of their nanoseconds, and the time
between two of them is the difference, or zero if there is none. Made up in
words it is the same. Times add up. Their texts have nine digits after the
point, are told apart, and are read back as the seconds that passed. -/
theorem exact_between :
    (∀ a b : Timestamp, a.order b = compare a.total b.total ∧ (a.order b = .eq ↔ a = b)) ∧
    (∀ a b, betweenInWords a b =
      some ((between a b).seconds.toNat, (between a b).nanos.toNat)) ∧
    (∀ a b, (between a b).nanos.toNat < 10 ^ 9 ∧
      (between a b).total = if b.order a = .lt then 0 else b.total - a.total) ∧
    (∀ a b c, a.order b ≠ .gt → b.order c ≠ .gt →
      (between a b).total + (between b c).total = (between a c).total) ∧
    (∀ a b, ∃ whole fraction, (between a b).text = String.ofList (whole ++ '.' :: fraction) ∧
      whole ≠ [] ∧ (∀ c ∈ whole, c.isDigit) ∧ fraction.length = 9 ∧ ∀ c ∈ fraction, c.isDigit) ∧
    (∀ a b c d, (between a b).text = (between c d).text ↔ between a b = between c d) ∧
    ∀ a b, (Literal.parse? (between a b).text.toList).map Literal.value =
      some (((b.total - a.total : ℕ) : ℚ) / 10 ^ 9) := by
  refine ⟨fun a b => ⟨a.order_eq_compare b, a.order_eq_eq_iff b⟩, betweenInWords_eq, ?difference, ?sum,
    ?digits, ?texts, ?reading⟩
  case difference =>
    intro a b
    refine ⟨nanos_between_lt a b, ?_⟩
    rw [total_between]
    split
    next horder =>
      rw [b.order_eq_lt_iff] at horder
      omega
    next => rfl
  case sum =>
    intro a b c hab hbc
    rw [Timestamp.order_ne_gt_iff] at hab hbc
    simp only [total_between]
    omega
  case digits =>
    intro a b
    exact ⟨_, _, rfl, Nat.toDigits_ne_nil, fun _ => Decimal.digits_isDigit,
      Decimal.length_padded (nanos_between_lt a b) (by decide), Decimal.padded_isDigit⟩
  case texts =>
    intro a b c d
    exact text_inj (nanos_between_lt a b) (nanos_between_lt c d)
  case reading =>
    intro a b
    obtain ⟨l, hl, hvalue⟩ := spellsRational_iff.mp (spells_chars (nanos_between_lt a b))
    rw [text, String.toList_ofList, hl, Option.map_some, hvalue, total_between]

/-- From half a second past the tenth to the start of the twelfth a second
is borrowed at one of two steps. -/
theorem exact_between_borrows :
    ∃ a b c : Timestamp, a.order b = .lt ∧ b.order c = .lt ∧
      (between a b).total = 700000000 ∧ (between b c).total = 800000000 ∧
      (between a b).total + (between b c).total = (between a c).total ∧
      (between a c).text = "1.500000000" := by
  obtain ⟨-, -, -, sum, -⟩ := exact_between
  refine ⟨⟨10, 500000000, by decide⟩, ⟨11, 200000000, by decide⟩, ⟨12, 0, by decide⟩, by decide, by decide,
    by decide, by decide, sum _ _ _ (by decide) (by decide), by decide⟩

end Elapsed

end MapBench
