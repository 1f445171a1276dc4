import MapBench.Number.Literal
import MapBench.Proofs.Number.Binary64
import MapBench.Proofs.Number.Integer

/-!
# `MapBench.Proofs.Number.Literal`: the rational numbers that literals spell

A literal is spelled by digits with at most one point among or beside
them, an exponent behind them and a sign in front if there is need of any.
What it spells is a rational number: the digits behind the point count as
fractions, and the exponent is one of ten.

* `SpellsRational`: what literals spell.
* `spellsRational_iff`: the reader takes exactly those, and keeps what
  they spell.
* `Literal.magnitude?_cases`: the nearest double of a literal. That very
  small and very large ones are sorted out first makes no difference.
-/

set_option autoImplicit false

namespace MapBench

open Decimal (placeValue SpellsNatural SpellsInteger)

/-! ### What is spelled -/

/-- Digits, with a point or without one, and what they denote. Digits may be
missing on one side of the point, but not on both. -/
inductive IsMantissa : List Char → ℚ → Prop
  | whole {ds : List Char} {n : ℕ} (digits : SpellsNatural ds n) : IsMantissa ds n
  | pointed {ds fs : List Char} (ne_nil : ds ≠ [] ∨ fs ≠ []) (isDigit : ∀ c ∈ ds, c.isDigit)
      (isDigit' : ∀ c ∈ fs, c.isDigit) :
      IsMantissa (ds ++ '.' :: fs) (placeValue ds + placeValue fs / 10 ^ fs.length)

/-- Nothing, or a letter and an integer. The integer may have a sign and
leading zeros. -/
inductive IsExponent : List Char → ℤ → Prop
  | none : IsExponent [] 0
  | letter {c : Char} {cs : List Char} {n : ℤ} (letter_eq : c = 'e' ∨ c = 'E')
      (integer : SpellsInteger cs n) : IsExponent (c :: cs) n

/-- A literal without a sign: digits, and the power of ten that they are
multiplied with. -/
inductive SpellsMagnitude : List Char → ℚ → Prop
  | scaled {ms es : List Char} {a : ℚ} {n : ℤ} (mantissa : IsMantissa ms a) (exponent : IsExponent es n) :
      SpellsMagnitude (ms ++ es) (a * 10 ^ n)

/-- A literal, and the rational number that it spells. Names such as those
of infinity spell no number. -/
inductive SpellsRational : List Char → ℚ → Prop
  | unsigned {cs : List Char} {a : ℚ} (magnitude : SpellsMagnitude cs a) : SpellsRational cs a
  | plus {cs : List Char} {a : ℚ} (magnitude : SpellsMagnitude cs a) : SpellsRational ('+' :: cs) a
  | minus {cs : List Char} {a : ℚ} (magnitude : SpellsMagnitude cs a) : SpellsRational ('-' :: cs) (-a)

namespace Literal

/-- The absolute value of a literal, exactly. -/
def magnitude (l : Literal) : ℚ :=
  l.significand * 10 ^ l.scale

/-- The value of a literal. A zero with a sign is zero. -/
def value (l : Literal) : ℚ :=
  if l.negative then -l.magnitude else l.magnitude

/-- The absolute value is never below zero. -/
theorem magnitude_nonneg (l : Literal) : 0 ≤ l.magnitude := by
  unfold magnitude
  positivity

/-- It is that of the value, as the name says. -/
theorem abs_value (l : Literal) : |l.value| = l.magnitude := by
  unfold value
  split
  · rw [abs_neg, abs_of_nonneg l.magnitude_nonneg]
  · exact abs_of_nonneg l.magnitude_nonneg

/-- A literal with a sign is negative, unless it is zero. So `-0` isn't
refused where negative numbers are. -/
theorem value_neg_iff (l : Literal) : l.value < 0 ↔ l.negative ∧ l.magnitude ≠ 0 := by
  have hnonneg := l.magnitude_nonneg
  unfold value
  split
  next h => simp [h, lt_iff_le_and_ne, hnonneg, eq_comm]
  next h => simp [h, hnonneg]

/-! ### What is read -/

/-- The reader of exponents takes exactly those. -/
theorem exponent?_eq_some_iff {es : List Char} {n : ℤ} : exponent? es = some n ↔ IsExponent es n := by
  constructor
  · intro h
    cases es with
    | nil =>
      cases h
      exact .none
    | cons c cs =>
      rw [exponent?] at h
      split at h
      next hc => exact .letter hc (Decimal.signed?_eq_some_iff.mp h)
      next => cases h
  · intro h
    cases h with
    | none => rfl
    | letter hc integer => rw [exponent?, if_pos hc, Decimal.signed?_eq_some_iff.mpr integer]

/-- An exponent begins with a letter, if there is one. So the digits before
it end there. -/
theorem not_isDigit_of_isExponent {es : List Char} {n : ℤ} (h : IsExponent es n) :
    ∀ c ∈ es.head?, c.isDigit = false ∧ c ≠ '.' := by
  intro c hc
  cases h with
  | none => cases hc
  | letter hletter =>
    cases hc
    rcases hletter with rfl | rfl <;> decide

/-- The digits behind a point, if there is one, and what follows. -/
def fraction : List Char → List Char × List Char
  | '.' :: rest => (rest.takeWhile Char.isDigit, rest.dropWhile Char.isDigit)
  | rest => ([], rest)

/-- The digits before and behind a point, and what follows. Every text can
be cut like that, literal or not. -/
def split (cs : List Char) : List Char × List Char × List Char :=
  (cs.takeWhile Char.isDigit, fraction (cs.dropWhile Char.isDigit))

/-- The reader in terms of these pieces: there has to be a digit, and what
follows has to be an exponent. -/
theorem parse?_eq (cs : List Char) :
    parse? cs =
      let (whole, fraction, rest) := split (sign cs).2
      if whole.isEmpty && fraction.isEmpty then none
      else (exponent? rest).map fun e =>
        ⟨(sign cs).1, Decimal.value (whole ++ fraction), e - fraction.length⟩ :=
  rfl

section

variable {ds fs es : List Char}

/-- Digits end where none follows, so they can be found again in front of
any such text. -/
theorem takeWhile_append_of_head? (hds : ∀ c ∈ ds, c.isDigit) (hes : ∀ c ∈ es.head?, c.isDigit = false) :
    (ds ++ es).takeWhile Char.isDigit = ds ∧ (ds ++ es).dropWhile Char.isDigit = es := by
  rw [List.takeWhile_append_of_pos hds, List.dropWhile_append_of_pos hds]
  cases es with
  | nil => simp
  | cons c es =>
    have hc := hes c rfl
    rw [List.takeWhile_cons_of_neg (by simp [hc]), List.dropWhile_cons_of_neg (by simp [hc])]
    simp

/-- Digits without a point are cut off as a whole. -/
theorem split_digits (hds : ∀ c ∈ ds, c.isDigit) (hes : ∀ c ∈ es.head?, c.isDigit = false ∧ c ≠ '.') :
    split (ds ++ es) = (ds, [], es) := by
  obtain ⟨htake, hdrop⟩ := takeWhile_append_of_head? hds fun c hc => (hes c hc).1
  rw [split, htake, hdrop]
  unfold fraction
  split
  next => exact absurd rfl (hes '.' rfl).2
  next => rfl

/-- Digits with a point among them are cut off on both sides of it. -/
theorem split_pointed (hds : ∀ c ∈ ds, c.isDigit) (hfs : ∀ c ∈ fs, c.isDigit)
    (hes : ∀ c ∈ es.head?, c.isDigit = false ∧ c ≠ '.') :
    split (ds ++ '.' :: (fs ++ es)) = (ds, fs, es) := by
  have hpoint : ∀ c ∈ ('.' :: (fs ++ es)).head?, c.isDigit = false := by simp
  obtain ⟨htake, hdrop⟩ := takeWhile_append_of_head? hds hpoint
  obtain ⟨htake', hdrop'⟩ := takeWhile_append_of_head? hfs fun c hc => (hes c hc).1
  rw [split, htake, hdrop, fraction, htake', hdrop']

/-- The pieces are digits, and make the text. The converse of the two
before: no text is cut in any other way. -/
theorem split_cases (cs : List Char) :
    ∃ ds fs es, split cs = (ds, fs, es) ∧ (∀ c ∈ ds, c.isDigit) ∧ (∀ c ∈ fs, c.isDigit) ∧
      (cs = ds ++ es ∧ fs = [] ∨ cs = ds ++ '.' :: (fs ++ es)) := by
  have htext := List.takeWhile_append_dropWhile (p := Char.isDigit) (l := cs)
  have hdigits : ∀ (l : List Char), ∀ c ∈ l.takeWhile Char.isDigit, c.isDigit := fun _ =>
    List.all_eq_true.mp List.all_takeWhile
  refine ⟨_, _, _, rfl, hdigits _, ?_⟩
  split
  next rest hrest =>
    refine ⟨hdigits _, .inr ?_⟩
    rw [List.takeWhile_append_dropWhile, ← hrest, htext]
  next => exact ⟨by simp, .inl ⟨htext.symm, rfl⟩⟩

end

/-- What the digits around a point make, with the exponent of the last
one. -/
theorem value_scaled (ds fs : List Char) (n : ℤ) :
    ((Decimal.value (ds ++ fs) : ℕ) : ℚ) * 10 ^ (n - fs.length) =
      (placeValue ds + placeValue fs / 10 ^ fs.length) * 10 ^ n := by
  rw [Decimal.value_eq_placeValue, Decimal.placeValue_append, zpow_sub₀ (by norm_num), zpow_natCast]
  push_cast
  field_simp

/-- A literal that is spelled is read, with its sign and its absolute value. -/
theorem exists_parse?_of_spells {cs body : List Char} {negative : Bool} {a : ℚ}
    (hsign : sign cs = (negative, body)) (h : SpellsMagnitude body a) :
    ∃ l, parse? cs = some l ∧ l.negative = negative ∧ l.magnitude = a := by
  cases h with
  | @scaled ms es a n mantissa exponent =>
    have hes := not_isDigit_of_isExponent exponent
    have hexponent := exponent?_eq_some_iff.mpr exponent
    rw [parse?_eq, hsign]
    cases mantissa with
    | whole digits =>
      refine ⟨⟨negative, Decimal.value (ms ++ []), n - ([] : List Char).length⟩, ?_, rfl,
        (value_scaled ms [] n).trans ?_⟩
      · simp [split_digits digits.isDigit hes, hexponent, digits.ne_nil]
      · simp [digits.denotes, placeValue]
    | @pointed ds fs ne_nil hds hfs =>
      refine ⟨⟨negative, Decimal.value (ds ++ fs), n - fs.length⟩, ?_, rfl, value_scaled ds fs n⟩
      rw [List.append_assoc, List.cons_append, split_pointed hds hfs hes]
      simp only [hexponent, Option.map_some]
      rw [if_neg]
      simpa [Classical.or_iff_not_imp_left] using ne_nil

/-- A literal that is read is spelled. Together with the other direction the
reader takes exactly the literals. -/
theorem spells_of_parse? {cs : List Char} {l : Literal} (h : parse? cs = some l) :
    ∃ body, sign cs = (l.negative, body) ∧ SpellsMagnitude body l.magnitude := by
  obtain ⟨ds, fs, es, hsplit, hds, hfs, htext⟩ := split_cases (sign cs).2
  rw [parse?_eq, hsplit] at h
  simp only at h
  split at h
  next => cases h
  next hne =>
    obtain ⟨n, hexponent, rfl⟩ := Option.map_eq_some_iff.mp h
    have hexponent := exponent?_eq_some_iff.mp hexponent
    refine ⟨(sign cs).2, rfl, ?_⟩
    rw [magnitude, value_scaled ds fs n]
    rcases htext with ⟨htext, rfl⟩ | htext
    · have hspells : SpellsNatural ds (placeValue ds) := ⟨by simpa using hne, hds, rfl⟩
      rw [htext]
      simpa [placeValue] using SpellsMagnitude.scaled (.whole hspells) hexponent
    · rw [htext, ← List.cons_append, ← List.append_assoc]
      exact .scaled (.pointed (by simpa [Classical.or_iff_not_imp_left] using hne) hds hfs) hexponent

/-- Digits and points are no signs, so a literal without a sign is taken as
a whole. -/
theorem sign_of_spells {cs : List Char} {a : ℚ} (h : SpellsMagnitude cs a) : sign cs = (false, cs) := by
  have hhead : ∀ c ∈ cs.head?, c.isDigit ∨ c = '.' := by
    intro c hc
    cases h with
    | @scaled ms es a n mantissa exponent =>
      cases mantissa with
      | whole digits =>
        rw [List.head?_append_of_ne_nil _ digits.ne_nil] at hc
        exact .inl (digits.isDigit c (List.mem_of_mem_head? hc))
      | @pointed ds fs ne_nil hds hfs =>
        cases ds with
        | nil =>
          cases hc
          exact .inr rfl
        | cons d ds =>
          cases hc
          exact .inl (hds _ List.mem_cons_self)
  unfold sign
  split
  next => exact absurd (hhead '-' rfl) (by decide)
  next => exact absurd (hhead '+' rfl) (by decide)
  next => rfl

end Literal

/-- The reader of literals takes exactly the texts that spell a rational
number, and keeps the number. -/
theorem spellsRational_iff {cs : List Char} {v : ℚ} :
    SpellsRational cs v ↔ ∃ l, Literal.parse? cs = some l ∧ l.value = v := by
  constructor
  · intro h
    cases h with
    | unsigned h =>
      obtain ⟨l, hl, hnegative, rfl⟩ := Literal.exists_parse?_of_spells (Literal.sign_of_spells h) h
      exact ⟨l, hl, by simp [Literal.value, hnegative]⟩
    | @plus cs _ h =>
      have hsign : Literal.sign ('+' :: cs) = (false, cs) := rfl
      obtain ⟨l, hl, hnegative, rfl⟩ := Literal.exists_parse?_of_spells hsign h
      exact ⟨l, hl, by simp [Literal.value, hnegative]⟩
    | @minus cs _ h =>
      have hsign : Literal.sign ('-' :: cs) = (true, cs) := rfl
      obtain ⟨l, hl, hnegative, rfl⟩ := Literal.exists_parse?_of_spells hsign h
      exact ⟨l, hl, by simp [Literal.value, hnegative]⟩
  · rintro ⟨l, hl, rfl⟩
    obtain ⟨body, hsign, hspells⟩ := Literal.spells_of_parse? hl
    unfold Literal.value
    -- The sign that was read says which of the three spellings it is.
    unfold Literal.sign at hsign
    split at hsign <;> obtain ⟨hnegative, rfl⟩ := Prod.mk.inj hsign <;> simp only [← hnegative]
    next => exact .minus hspells
    next => exact .plus hspells
    next => exact .unsigned hspells

/-- A text spells at most one number, since the reader gives only one. -/
theorem SpellsRational.unique {cs : List Char} {v w : ℚ} (hv : SpellsRational cs v)
    (hw : SpellsRational cs w) : v = w := by
  obtain ⟨l, hl, rfl⟩ := spellsRational_iff.mp hv
  obtain ⟨l', hl', rfl⟩ := spellsRational_iff.mp hw
  rw [hl, Option.some.injEq] at hl'
  rw [hl']

/-! ### The nearest double of a literal -/

namespace Literal

/-- A power of ten cut in two. -/
theorem ten_zpow_add (n : ℕ) (e : ℤ) : (10 : ℚ) ^ (n + e) = 10 ^ n * 10 ^ e := by
  rw [zpow_add₀ (by norm_num), zpow_natCast]

/-- The order tells the size of a literal, up to a factor of ten. That is
enough to sort out the very small and very large ones. -/
theorem magnitude_bounds {l : Literal} (h : l.significand ≠ 0) :
    (10 : ℚ) ^ (l.order - 1) ≤ l.magnitude ∧ l.magnitude < 10 ^ l.order := by
  have hpos : (0 : ℚ) < 10 ^ l.scale := by positivity
  obtain ⟨c, ds, hdigits, hc⟩ := Decimal.digits_eq_cons (Nat.pos_of_ne_zero h)
  have hisDigit : ∀ x ∈ c :: ds, x.isDigit := fun x hx => Decimal.digits_isDigit (hdigits ▸ hx)
  have hvalue : Decimal.value (c :: ds) = l.significand := by rw [← hdigits, Decimal.value_digits]
  have hlow : (10 ^ ds.length : ℚ) ≤ l.significand := by
    exact_mod_cast hvalue ▸ Decimal.le_value (hisDigit c List.mem_cons_self) hc ds
  have hhigh : (l.significand : ℚ) < 10 ^ (c :: ds).length := by
    exact_mod_cast hvalue ▸ Decimal.value_lt hisDigit
  constructor
  · calc (10 : ℚ) ^ (l.order - 1) = 10 ^ ((ds.length : ℤ) + l.scale) := by
          rw [order, hdigits, List.length_cons]
          congr 1
          push_cast
          ring
      _ = 10 ^ ds.length * 10 ^ l.scale := ten_zpow_add ..
      _ ≤ l.magnitude := mul_le_mul_of_nonneg_right hlow hpos.le
  · calc l.magnitude < 10 ^ (c :: ds).length * 10 ^ l.scale := mul_lt_mul_of_pos_right hhigh hpos
      _ = 10 ^ l.order := by rw [← ten_zpow_add, order, hdigits]

/-- Numbers up to half of the least double are nearest to zero. At just that
half there would be a tie. -/
theorem isNearest_zero {q : ℚ} (hq : 0 ≤ q) (htiny : q < 2 ^ (-1075 : ℤ)) : IsNearest q 0 := by
  have hleast : (2 : ℚ) ^ (-1074 : ℤ) = 2 * 2 ^ (-1075 : ℤ) := by
    rw [← zpow_one_add₀ two_ne_zero]
    rfl
  have hfits : FitsExponent q (-1074) := ⟨htiny.trans (zpow_lt_zpow_right₀ (by norm_num) (by norm_num)),
    .inr rfl, le_rfl⟩
  have hrounding : IsRounding (q / 2 ^ (-1074 : ℤ)) 0 := by
    refine .of_lt ?_
    rw [Nat.cast_zero, zero_sub, abs_neg, abs_of_nonneg (by positivity), div_lt_iff₀ (two_zpow_pos _),
      hleast]
    linarith
  simpa using hfits.isNearest hrounding (.inl (by norm_num))

/-- Powers of two and of ten are compared as natural numbers. -/
theorem two_zpow_le_ten_zpow {m n : ℕ} (h : 2 ^ m ≤ 10 ^ n) : (2 : ℚ) ^ (m : ℤ) ≤ 10 ^ (n : ℤ) := by
  rw [zpow_natCast, zpow_natCast]
  exact_mod_cast h

/-- The double of a literal is nearest to its absolute value, unless there
is none. -/
theorem magnitude?_cases (l : Literal) :
    (l.magnitude? = none ∧ overflow ≤ l.magnitude) ∨
      ∃ x, l.magnitude? = some x ∧ IsNearest l.magnitude x.value ∧ l.magnitude < overflow := by
  have hzero : Binary64.value ⟨0, 0⟩ = 0 := by simp [Binary64.value]
  unfold magnitude?
  -- First the literals that are too small for any double but zero, then those that are too
  -- large for any.
  split
  next hsmall =>
    have htiny : l.magnitude < 2 ^ (-1075 : ℤ) := by
      by_cases hnone : l.significand = 0
      · rw [magnitude, hnone, Nat.cast_zero, zero_mul]
        exact two_zpow_pos _
      · have horder : l.order ≤ -401 := by have := hsmall.resolve_left hnone; omega
        calc l.magnitude < 10 ^ l.order := (magnitude_bounds hnone).2
          _ ≤ 10 ^ (-401 : ℤ) := zpow_le_zpow_right₀ (by norm_num) horder
          _ ≤ 2 ^ (-1075 : ℤ) := by
            rw [zpow_neg, zpow_neg, inv_le_inv₀ (by positivity) (by positivity)]
            exact two_zpow_le_ten_zpow (m := 1075) (n := 401) (by decide +kernel)
    refine .inr ⟨⟨0, 0⟩, rfl, ?_, ?_⟩
    · rw [hzero]
      exact isNearest_zero l.magnitude_nonneg htiny
    · calc l.magnitude < 2 ^ (-1075 : ℤ) := htiny
        _ ≤ 2 ^ (1023 : ℤ) := zpow_le_zpow_right₀ (by norm_num) (by norm_num)
        _ < overflow := two_pow_lt_overflow
  next hsmall =>
    rw [not_or] at hsmall
    split
    next hlarge =>
      refine .inl ⟨rfl, ?_⟩
      calc overflow ≤ 2 ^ (1024 : ℤ) := sub_le_self _ (two_zpow_pos _).le
        _ ≤ 10 ^ (310 : ℤ) := two_zpow_le_ten_zpow (m := 1024) (n := 310) (by decide +kernel)
        _ ≤ 10 ^ (l.order - 1) := zpow_le_zpow_right₀ (by norm_num) (by omega)
        _ ≤ l.magnitude := (magnitude_bounds hsmall.1).1
    next =>
      -- What is left is written out as a quotient.
      have hquotient : ((l.significand * Nat.pow 10 l.scale.toNat : ℕ) : ℚ) /
          (Nat.pow 10 (-l.scale).toNat : ℕ) = l.magnitude := by
        rw [magnitude, Binary64.zpow_eq_div (by norm_num), Nat.pow_eq, Nat.pow_eq]
        push_cast
        ring
      rw [← hquotient]
      exact Binary64.nearest?_cases _ (Nat.pow_pos (by decide))

end Literal

end MapBench
