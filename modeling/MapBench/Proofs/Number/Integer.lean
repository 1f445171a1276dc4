import Mathlib.Tactic.Ring
import MapBench.Proofs.Number.Decimal

/-!
# `MapBench.Proofs.Number.Integer`: the integers that texts spell

An integer is spelled by one or more digits with at most one sign in
front, and each digit counts by its place. The reader takes exactly
these texts.

A machine reads an integer of 64 bits digit by digit, and gives up when
a product or a sum leaves the signed words. For a negative number the
digits are subtracted, since the least word has no positive twin. This
loses nothing: numbers only grow away from zero as digits are read, so
if one of them leaves the words, the last one would.

* `placeValue`, `SpellsNatural`, `SpellsInteger`: what texts spell.
* `signed?_eq_some_iff`: the reader takes exactly those.
* `putDigits?_eq`, `signedInWords?_eq_some_iff`: reading digit by digit
  in words.
-/

set_option autoImplicit false

namespace MapBench.Decimal

/-! ### What is spelled -/

/-- What digits denote: each of them counts by its place. This says it
without reading from left to right, as the reader does. -/
def placeValue : List Char → Nat
  | [] => 0
  | c :: ds => (c.toNat - '0'.toNat) * 10 ^ ds.length + placeValue ds

/-- What the reader makes of digits is the sum of what they count for. -/
theorem value_eq_placeValue (ds : List Char) : value ds = placeValue ds := by
  induction ds with
  | nil => exact value_nil
  | cons c ds ih =>
    rw [value_cons, ih, placeValue, Nat.mul_comm]
    rfl

/-- Digits count for more the more digits are behind them. -/
theorem placeValue_append (as bs : List Char) :
    placeValue (as ++ bs) = placeValue as * 10 ^ bs.length + placeValue bs := by
  induction as with
  | nil => simp [placeValue]
  | cons c as ih =>
    rw [List.cons_append, placeValue, placeValue, ih, List.length_append, Nat.pow_add]
    ring

/-- One or more digits spell a natural number. Leading zeros are no
different from others. -/
structure SpellsNatural (ds : List Char) (n : Nat) : Prop where
  ne_nil : ds ≠ []
  isDigit : ∀ c ∈ ds, c.isDigit
  denotes : n = placeValue ds

/-- Digits with at most one sign in front spell an integer. The sign is no
part of the digits, so two signs spell nothing. -/
inductive SpellsInteger : List Char → Int → Prop
  | unsigned {ds : List Char} {n : Nat} (digits : SpellsNatural ds n) : SpellsInteger ds n
  | plus {ds : List Char} {n : Nat} (digits : SpellsNatural ds n) : SpellsInteger ('+' :: ds) n
  | minus {ds : List Char} {n : Nat} (digits : SpellsNatural ds n) : SpellsInteger ('-' :: ds) (-n)

/-- The check of the reader asks for some digits and nothing but digits. -/
theorem isDigits_iff {ds : List Char} : isDigits ds ↔ ds ≠ [] ∧ ∀ c ∈ ds, c.isDigit := by
  simp [isDigits]

/-- The reader of natural numbers takes exactly the texts that spell one. -/
theorem unsigned?_eq_some_iff {ds : List Char} {n : Nat} :
    unsigned? ds = some n ↔ SpellsNatural ds n := by
  rw [unsigned?]
  split
  next h =>
    obtain ⟨hne, hdigits⟩ := isDigits_iff.mp h
    rw [value_eq_placeValue, Option.some.injEq]
    exact ⟨fun heq => ⟨hne, hdigits, heq.symm⟩, fun hspells => hspells.denotes.symm⟩
  next h =>
    refine ⟨fun heq => (nomatch heq), fun hspells => ?_⟩
    exact absurd (isDigits_iff.mpr ⟨hspells.ne_nil, hspells.isDigit⟩) h

/-- A text without a sign in front is read as it is. -/
theorem signed?_of_no_sign {cs : List Char} (hminus : ∀ ds, cs ≠ '-' :: ds)
    (hplus : ∀ ds, cs ≠ '+' :: ds) : signed? cs = (unsigned? cs).map Int.ofNat := by
  unfold signed?
  split
  next ds => exact absurd rfl (hminus ds)
  next ds => exact absurd rfl (hplus ds)
  next => rfl

/-- A sign is no digit, so no natural number is spelled with one. This tells
the three ways to spell an integer apart. -/
theorem SpellsNatural.ne_cons {ds : List Char} {n : Nat} (h : SpellsNatural ds n) {c : Char}
    (hc : c.isDigit = false) (cs : List Char) : ds ≠ c :: cs := by
  rintro rfl
  rw [h.isDigit c List.mem_cons_self] at hc
  cases hc

/-- The reader of integers takes exactly the texts that spell one, and gives
the integer that they spell. -/
theorem signed?_eq_some_iff {cs : List Char} {n : Int} :
    signed? cs = some n ↔ SpellsInteger cs n := by
  constructor
  · intro h
    -- The cases are those of the first character.
    unfold signed? at h
    split at h <;> obtain ⟨m, hm, rfl⟩ := Option.map_eq_some_iff.mp h
    next => exact .minus (unsigned?_eq_some_iff.mp hm)
    next => exact .plus (unsigned?_eq_some_iff.mp hm)
    next => exact .unsigned (unsigned?_eq_some_iff.mp hm)
  · intro h
    cases h with
    | unsigned digits =>
      rw [signed?_of_no_sign (digits.ne_cons rfl) (digits.ne_cons rfl), unsigned?_eq_some_iff.mpr digits]
      rfl
    | plus digits =>
      rw [signed?, unsigned?_eq_some_iff.mpr digits]
      rfl
    | minus digits =>
      rw [signed?, unsigned?_eq_some_iff.mpr digits]
      rfl

/-- The digits of a number spell it. There is at least one, also for zero. -/
theorem spellsNatural_digits (n : Nat) : SpellsNatural (digits n) n where
  ne_nil := Nat.toDigits_ne_nil
  isDigit _ hc := digits_isDigit hc
  denotes := by rw [← value_eq_placeValue, value_digits]

/-! ### Reading in words -/

/-- The signed words are those of 64 bits. -/
theorem fitsWord_iff {n : Int} : fitsWord n ↔ -2 ^ 63 ≤ n ∧ n < 2 ^ 63 := by
  simp [fitsWord]
  omega

/-- An integer, unless it leaves the signed words. This is what a checked
operation gives. -/
def word? (n : Int) : Option Int :=
  if fitsWord n then some n else none

/-- A number on one side of zero. A negative number is made by subtracting
digits, so each step goes in one direction. -/
def onSide (negative : Bool) (n : Nat) : Int :=
  if negative then -n else n

/-- Put digits behind a number, one at a time. The product and the sum
have to be words each time. -/
def putDigits? (negative : Bool) : Int → List Char → Option Int
  | n, [] => some n
  | n, c :: cs => do
    let digit ← if c.isDigit then some (c.toNat - 48) else none
    let tens ← word? (n * 10)
    let n ← word? (tens + onSide negative digit)
    putDigits? negative n cs

/-- Read an integer in words: an optional sign, then at least one
digit. -/
def signedInWords? : List Char → Option Int
  | [] | ['+'] | ['-'] => none
  | '-' :: ds => putDigits? true 0 ds
  | '+' :: ds => putDigits? false 0 ds
  | ds => putDigits? false 0 ds

/-- What lies between zero and a word is a word. -/
theorem fitsWord_onSide_of_le {negative : Bool} {m n : Nat} (hle : m ≤ n)
    (h : fitsWord (onSide negative n)) : fitsWord (onSide negative m) := by
  rw [fitsWord_iff] at h ⊢
  cases negative <;> simp only [onSide, Bool.false_eq_true, if_true, if_false] at h ⊢ <;> omega

/-- Once a number is no word, no larger one is. So a step that fails could
be put off until the last digit. -/
theorem word?_onSide_eq_none {negative : Bool} {m n : Nat} (hle : m ≤ n)
    (h : ¬ fitsWord (onSide negative m)) : word? (onSide negative n) = none :=
  if_neg fun hn => h (fitsWord_onSide_of_le hle hn)

/-- Digits behind a number only make it larger. -/
theorem le_ofDigitChars (ds : List Char) (n : Nat) : n ≤ Nat.ofDigitChars 10 ds n := by
  rw [Nat.ofDigitChars_eq_ofDigitChars_zero]
  have hplace : 1 * n ≤ 10 ^ ds.length * n := Nat.mul_le_mul_right n (Nat.one_le_pow _ _ (by decide))
  omega

/-- Making room for a digit keeps a number on its side of zero. -/
theorem onSide_mul (negative : Bool) (m k : Nat) : onSide negative m * k = onSide negative (m * k) := by
  cases negative <;> simp only [onSide, Bool.false_eq_true, if_true, if_false] <;> grind

/-- So does putting the digit there. -/
theorem onSide_add (negative : Bool) (m k : Nat) :
    onSide negative m + onSide negative k = onSide negative (m + k) := by
  cases negative <;> simp only [onSide, Bool.false_eq_true, if_true, if_false] <;> omega

/-- Putting digits behind a number gives what they make of it, if that is
a word. -/
theorem putDigits?_eq {negative : Bool} {ds : List Char} (hdigits : ∀ c ∈ ds, c.isDigit) {m : Nat}
    (hm : fitsWord (onSide negative m)) :
    putDigits? negative (onSide negative m) ds = word? (onSide negative (Nat.ofDigitChars 10 ds m)) := by
  induction ds generalizing m with
  | nil => exact (if_pos hm).symm
  | cons c ds ih =>
    have hc : c.isDigit := hdigits c List.mem_cons_self
    have hds : ∀ x ∈ ds, x.isDigit := fun x hx => hdigits x (List.mem_cons_of_mem _ hx)
    -- The number with one more digit, and where the digits after that lead.
    let next := m * 10 + (c.toNat - 48)
    have hlast : Nat.ofDigitChars 10 (c :: ds) m = Nat.ofDigitChars 10 ds next := by
      rw [Nat.ofDigitChars_cons, Nat.mul_comm 10 m]
      rfl
    have hle : next ≤ Nat.ofDigitChars 10 ds next := le_ofDigitChars ds next
    rw [putDigits?, if_pos hc, hlast]
    change ((word? (onSide negative m * (10 : Nat))).bind fun tens =>
      (word? (tens + onSide negative (c.toNat - 48))).bind fun n => putDigits? negative n ds) = _
    rw [onSide_mul]
    -- Either step may leave the words. Then the whole number does so as well.
    by_cases htens : fitsWord (onSide negative (m * 10))
    · rw [word?, if_pos htens, Option.bind_some, onSide_add]
      by_cases hnext : fitsWord (onSide negative next)
      · rw [word?, if_pos hnext, Option.bind_some, ih hds hnext]
      · rw [word?, if_neg hnext, word?_onSide_eq_none hle hnext]
        rfl
    · rw [word?, if_neg htens, word?_onSide_eq_none (Nat.le_trans (Nat.le_add_right _ _) hle) htens]
      rfl

/-- Only digits can be put behind a number. Anything else among them is
found, unless a step has failed before. -/
theorem putDigits?_eq_none {negative : Bool} {ds : List Char} (h : ¬ ∀ c ∈ ds, c.isDigit) (n : Int) :
    putDigits? negative n ds = none := by
  induction ds generalizing n with
  | nil => exact absurd (fun _ hc => (nomatch hc)) h
  | cons c ds ih =>
    rw [putDigits?]
    by_cases hc : c.isDigit
    · have hrest : ¬ ∀ x ∈ ds, x.isDigit := fun hds => h (List.forall_mem_cons.mpr ⟨hc, hds⟩)
      simp [ih hrest]
    · rw [if_neg hc]
      rfl

/-- From zero on, this reads a number with a sign. There has to be a digit,
since none at all would leave the zero. -/
theorem putDigits?_zero (negative : Bool) {ds : List Char} (hds : ds ≠ []) :
    putDigits? negative 0 ds = ((unsigned? ds).map (onSide negative)).bind word? := by
  have hzero : (0 : Int) = onSide negative 0 := by cases negative <;> rfl
  rw [unsigned?]
  by_cases h : ∀ c ∈ ds, c.isDigit
  · rw [if_pos (isDigits_iff.mpr ⟨hds, h⟩), hzero, putDigits?_eq h (hzero ▸ by decide)]
    rfl
  · rw [if_neg fun hdigits => h (isDigits_iff.mp hdigits).2, putDigits?_eq_none h]
    rfl

/-- Reading in words gives what the reader gives, if that is a word. -/
theorem signedInWords?_eq (cs : List Char) : signedInWords? cs = (signed? cs).bind word? := by
  unfold signedInWords?
  split
  next => rfl
  next => rfl
  next => rfl
  next ds hds =>
    rw [putDigits?_zero true fun h => hds (h ▸ rfl)]
    rfl
  next ds hds =>
    rw [putDigits?_zero false fun h => hds (h ▸ rfl)]
    rfl
  next hnil _ _ hminus hplus =>
    rw [putDigits?_zero false hnil, signed?_of_no_sign hminus hplus]
    rfl

/-- A word that is given is the integer itself. -/
theorem word?_eq_some_iff {m n : Int} : word? m = some n ↔ m = n ∧ fitsWord n := by
  rw [word?]
  split <;> grind

/-- So it takes the texts that spell a word, and no others: none is refused
because of the way it is read. -/
theorem signedInWords?_eq_some_iff {cs : List Char} {n : Int} :
    signedInWords? cs = some n ↔ SpellsInteger cs n ∧ fitsWord n := by
  rw [signedInWords?_eq, Option.bind_eq_some_iff]
  simp only [signed?_eq_some_iff, word?_eq_some_iff]
  constructor
  · rintro ⟨m, hspells, rfl, hword⟩
    exact ⟨hspells, hword⟩
  · rintro ⟨hspells, hword⟩
    exact ⟨n, hspells, rfl, hword⟩

end MapBench.Decimal
