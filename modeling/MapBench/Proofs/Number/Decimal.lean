import MapBench.Number.Decimal

/-!
# `MapBench.Proofs.Number.Decimal`: digits of a fixed width

Digits of one width that denote the same number are the same digits,
and a number filled up to a width still denotes itself.

* `value_lt`: what digits of some width denote is below a power of
  ten.
* `value_injective`: digits of one width are told apart by what they
  denote.
* `digits_eq_cons`, `digits_value`: a number has no leading zeros, and
  digits without leading zeros are those of what they denote.
* `length_padded`, `padded_isDigit`, `value_padded`: a number that is
  filled up to a width.
-/

set_option autoImplicit false

namespace MapBench.Decimal

/-- No digits denote zero. -/
@[simp] theorem value_nil : value [] = 0 :=
  Nat.ofDigitChars_nil

/-- The first digit counts as often as its place says. The place is told by
how many digits are behind it. -/
theorem value_cons (c : Char) (ds : List Char) :
    value (c :: ds) = Nat.pow 10 ds.length * (c.toNat - 48) + value ds := by
  change Nat.ofDigitChars 10 (c :: ds) 0 = _
  rw [Nat.ofDigitChars_cons, Nat.ofDigitChars_eq_ofDigitChars_zero]
  change Nat.pow 10 ds.length * (10 * 0 + (c.toNat - 48)) + value ds = _
  rw [Nat.mul_zero, Nat.zero_add]

/-- Digits denote a number below the power of ten of their width. So what is
behind a digit never makes up for one more of it. -/
theorem value_lt {ds : List Char} (h : ∀ c ∈ ds, c.isDigit) : value ds < Nat.pow 10 ds.length := by
  induction ds with
  | nil => simp
  | cons c ds ih =>
    have hrest := ih fun c hc => h c (List.mem_cons_of_mem _ hc)
    have hdigit : c.toNat - 48 ≤ 9 := by
      have hc := h c List.mem_cons_self
      rw [Char.isDigit_iff_toNat] at hc
      have : '9'.toNat = 57 := rfl
      omega
    have hplace : Nat.pow 10 (c :: ds).length = Nat.pow 10 ds.length * 10 := rfl
    rw [value_cons, hplace]
    have := Nat.mul_le_mul_left (Nat.pow 10 ds.length) hdigit
    omega

/-- Digits of one width are told apart by what they denote. Of different
widths they aren't, because of leading zeros. -/
theorem value_injective {as bs : List Char} (has : ∀ c ∈ as, c.isDigit) (hbs : ∀ c ∈ bs, c.isDigit)
    (hlength : as.length = bs.length) (hvalue : value as = value bs) : as = bs := by
  induction as generalizing bs with
  | nil => exact (List.eq_nil_of_length_eq_zero hlength.symm).symm
  | cons a as ih =>
    cases bs with
    | nil => simp at hlength
    | cons b bs =>
      have htails : as.length = bs.length := by simpa using hlength
      have has' : ∀ c ∈ as, c.isDigit := fun c hc => has c (List.mem_cons_of_mem _ hc)
      have hbs' : ∀ c ∈ bs, c.isDigit := fun c hc => hbs c (List.mem_cons_of_mem _ hc)
      have hlas := value_lt has'
      have hlbs := value_lt hbs'
      rw [value_cons, value_cons, htails] at hvalue
      rw [htails] at hlas
      -- What follows the first digit is a remainder of the place of that digit.
      have hfirst : a.toNat - 48 = b.toNat - 48 := by
        have hplace : 0 < Nat.pow 10 bs.length := Nat.pow_pos (by decide)
        have := congrArg (· / Nat.pow 10 bs.length) hvalue
        simpa only [Nat.mul_add_div hplace, Nat.div_eq_of_lt hlas, Nat.div_eq_of_lt hlbs,
          Nat.add_zero] using this
      have hrest : value as = value bs := by
        rw [hfirst] at hvalue
        omega
      have hhead : a = b := by
        have ha := (Char.isDigit_iff_toNat).mp (has a List.mem_cons_self)
        have hb := (Char.isDigit_iff_toNat).mp (hbs b List.mem_cons_self)
        have : '0'.toNat = 48 := rfl
        exact Char.toNat_inj.mp (by omega)
      rw [hhead, ih has' hbs' htails hrest]

/-- Zeros in front don't count, however many there are. -/
theorem value_replicate_zero (n : Nat) (ds : List Char) :
    value (List.replicate n '0' ++ ds) = value ds := by
  induction n with
  | zero => rfl
  | succ n ih =>
    rw [List.replicate_succ, List.cons_append, value_cons, ih]
    simp

/-- Zeros in front of a number don't change it. So a key still tells its
index. -/
theorem value_padded (width n : Nat) : value (padded width n) = n := by
  rw [padded, List.leftpad, value_replicate_zero, value_digits]

/-- A number is filled up with digits, so all of the text is digits. -/
theorem padded_isDigit {width n : Nat} : ∀ c ∈ padded width n, c.isDigit := by
  intro c hc
  rw [padded, List.leftpad, List.mem_append, List.mem_replicate] at hc
  rcases hc with ⟨-, rfl⟩ | hc
  · decide
  · exact digits_isDigit hc

/-- Each digit of a text takes one byte. So a key takes as many bytes as it
has digits. -/
theorem utf8ByteSize_ofList {ds : List Char} (h : ∀ c ∈ ds, c.isDigit) :
    (String.ofList ds).utf8ByteSize = ds.length := by
  induction ds with
  | nil => rfl
  | cons c ds ih =>
    have hc : c.utf8Size = 1 := by
      have hrange := Char.isDigit_iff_toNat.mp (h c List.mem_cons_self)
      exact Char.utf8Size_eq_one_iff.mpr (Nat.le_trans hrange.2 (by decide))
    rw [String.ofList_cons, String.utf8ByteSize_append, String.utf8ByteSize_singleton, hc,
      ih fun x hx => h x (List.mem_cons_of_mem c hx), List.length_cons, Nat.add_comm]

/-- A character that is no digit is in no number. -/
theorem notMem_digits {c : Char} (h : c.isDigit = false) (n : Nat) : c ∉ digits n := fun hmem => by
  rw [digits_isDigit hmem] at h
  cases h

/-- Nor is it in one that was filled up. -/
theorem notMem_padded {c : Char} (h : c.isDigit = false) (width n : Nat) : c ∉ padded width n :=
  fun hmem => by
    rw [padded_isDigit c hmem] at h
    cases h

/-- A number that doesn't need more digits than a width is filled up
to exactly that width. -/
theorem length_padded_le_iff {width n : Nat} (h : 0 < width) :
    (padded width n).length ≤ width ↔ n < Nat.pow 10 width := by
  show _ ↔ n < 10 ^ width
  rw [padded, List.length_leftpad, ← Nat.length_toDigits_le_iff (by decide : 1 < 10) h, digits]
  omega

/-- A number that isn't too large is filled up to just the width. -/
theorem length_padded {width n : Nat} (h : n < Nat.pow 10 width) (hw : 0 < width) :
    (padded width n).length = width := by
  have hle := (length_padded_le_iff hw).mpr h
  have hge : width ≤ (padded width n).length := by
    rw [padded, List.length_leftpad]
    exact Nat.le_max_left ..
  omega

/-- The digits of a number don't begin with a zero, unless they are
one. -/
theorem digits_eq_cons {n : Nat} (h : 0 < n) : ∃ c ds, digits n = c :: ds ∧ c ≠ '0' := by
  induction n using Nat.strongRecOn with
  | ind n ih =>
    rw [digits, Nat.toDigits_eq_if (by decide : 1 < 10)]
    split
    next hsmall =>
      have hchar : ∀ d < 10, 0 < d → Nat.digitChar d ≠ '0' := by decide
      exact ⟨Nat.digitChar n, [], rfl, hchar n hsmall h⟩
    next =>
      obtain ⟨c, ds, hds, hc⟩ := ih (n / 10) (by omega) (by omega)
      refine ⟨c, ds ++ [Nat.digitChar (n % 10)], ?_, hc⟩
      rw [← List.cons_append, ← hds]
      rfl

/-- Digits without leading zeros denote a number of their width. The first
one alone makes it that large. -/
theorem le_value {c : Char} (hdigit : c.isDigit) (hc : c ≠ '0') (ds : List Char) :
    Nat.pow 10 ds.length ≤ value (c :: ds) := by
  have hrange := Char.isDigit_iff_toNat.mp hdigit
  have hzero : '0'.toNat = 48 := rfl
  have hne : c.toNat ≠ 48 := fun h => hc (Char.toNat_inj.mp h)
  rw [value_cons]
  have hplace := Nat.mul_le_mul_left (Nat.pow 10 ds.length) (show 1 ≤ c.toNat - 48 by omega)
  omega

/-- They are the digits of that number. So a number has one spelling without
leading zeros. -/
theorem digits_value {c : Char} {ds : List Char} (h : ∀ x ∈ c :: ds, x.isDigit) (hc : c ≠ '0') :
    digits (value (c :: ds)) = c :: ds := by
  have hlow := le_value (h c List.mem_cons_self) hc ds
  have hhigh := value_lt h
  have hvalue := value_digits (value (c :: ds))
  have hdigits : ∀ x ∈ digits (value (c :: ds)), x.isDigit := fun x hx => digits_isDigit hx
  have hpos : 0 < value (c :: ds) := Nat.lt_of_lt_of_le (Nat.pow_pos (by decide)) hlow
  obtain ⟨c', ds', hds', hc'⟩ := digits_eq_cons hpos
  rw [hds'] at hvalue hdigits ⊢
  have hlow' := le_value (hdigits c' List.mem_cons_self) hc' ds'
  have hhigh' := value_lt hdigits
  -- Numbers of one width lie between two powers of ten.
  have hlength : ds'.length = ds.length := by
    rw [hvalue] at hlow' hhigh'
    have h₁ := (Nat.pow_lt_pow_iff_right (by decide)).mp (Nat.lt_of_le_of_lt hlow hhigh')
    have h₂ := (Nat.pow_lt_pow_iff_right (by decide)).mp (Nat.lt_of_le_of_lt hlow' hhigh)
    simp only [List.length_cons] at h₁ h₂
    omega
  exact value_injective hdigits h (by simp [hlength]) hvalue

end MapBench.Decimal
