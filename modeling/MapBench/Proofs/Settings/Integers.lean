import MapBench.Proofs.Number.Integer
import MapBench.Settings.Reading

/-!
# `MapBench.Proofs.Settings.Integers`: the integers that settings accept

An option that is a number takes the texts that spell a signed word, with
one exception: zero has to be spelled `0`. The readers with a lower bound
take the same texts as far as their numbers reach it, and say what is
wrong in a fixed order: first that there is no integer, then that it is
too low. That it is too large for a natural word is never said, since no
signed word is.

* `IsSetting`: the texts that are taken, and the numbers they stand for.
* `readInteger_eq_ok_iff`, `readInteger_eq_error_iff`: they are, and no
  others.
* `ReadsFrom`, `readsFrom_reader`: a reader with a lower bound.
* `readers_acceptExactly`: what the four readers take.
-/

set_option autoImplicit false

namespace MapBench

open Decimal (SpellsInteger signedInWords?)

/-- The texts that stand for an integer in a setting. Zero has one
spelling, every other signed word has many. -/
inductive IsSetting (text : String) (n : Int) : Prop
  | zero (text_eq : text = "0") (n_eq : n = 0)
  | other (spelled : SpellsInteger text.toList n) (ne_zero : n ≠ 0) (word : -2 ^ 63 ≤ n ∧ n < 2 ^ 63)

/-- The texts that are taken, in terms of what they spell: an integer that
is a word, and `0` is the only spelling of zero. -/
theorem isSetting_iff {text : String} {n : Int} :
    IsSetting text n ↔ SpellsInteger text.toList n ∧ Decimal.fitsWord n ∧ (n = 0 → text = "0") := by
  rw [Decimal.fitsWord_iff]
  constructor
  · rintro (⟨rfl, rfl⟩ | ⟨spelled, ne_zero, word⟩)
    · exact ⟨.unsigned (Decimal.spellsNatural_digits 0), by decide, fun _ => rfl⟩
    · exact ⟨spelled, word, fun h => absurd h ne_zero⟩
  · rintro ⟨spelled, word, hzero⟩
    by_cases h : n = 0
    · exact .zero (hzero h) h
    · exact .other spelled h word

/-- The reader takes these texts and gives the integers that they stand for. -/
theorem readInteger_eq_ok_iff {text : String} {n : Int} : readInteger text = .ok n ↔ IsSetting text n := by
  rw [isSetting_iff, ← Decimal.signed?_eq_some_iff, readInteger]
  cases Decimal.signed? text.toList with
  | none => simp
  | some m =>
    simp only [Option.some.injEq]
    constructor
    · intro h
      split at h
      · cases h
      · next hrefused =>
        cases h
        simpa using hrefused
    · rintro ⟨rfl, hword, hzero⟩
      rw [if_neg]
      simpa [hword] using hzero

/-- There is one complaint about a text that isn't taken, whatever is wrong
with it. It repeats the text. -/
theorem readInteger_eq_error_iff {text : String} {e : SettingsError} :
    readInteger text = .error e ↔ e = .notAnInteger text ∧ ∀ n, ¬ IsSetting text n := by
  simp only [← readInteger_eq_ok_iff]
  rw [readInteger]
  split
  next => simp [eq_comm]
  next =>
    split
    · simp [eq_comm]
    · simp

/-- How a reader of natural numbers takes the integers from a lowest one
on. That there is no integer comes before any other complaint. -/
structure ReadsFrom (lowest : Int) (refusal : String → SettingsError)
    (read : String → Except SettingsError Nat) : Prop where
  ok (text : String) (n : Nat) : read text = .ok n ↔ lowest ≤ n ∧ readInteger text = .ok n
  error (text : String) (e : SettingsError) :
    read text = .error e ↔
      readInteger text = .error e ∨ e = refusal text ∧ ∃ n < lowest, readInteger text = .ok n
  ne_outOfRange (text text' : String) : read text ≠ .error (.outOfRange text')

/-- A reader that asks for an integer, then for the lower bound, and last
for a natural word. -/
def reader (lowest : Int) (refusal : String → SettingsError) (text : String) :
    Except SettingsError Nat := do
  let n ← readInteger text
  if n < lowest then throw (refusal text)
  else if maxWord < n.toNat then throw (.outOfRange text)
  else return n.toNat

/-- No signed word is too large for a natural word. So the complaint about
this is never made. -/
theorem toNat_le_maxWord {text : String} {n : Int} (h : readInteger text = .ok n) : n.toNat ≤ maxWord := by
  have hword := Decimal.fitsWord_iff.mp (isSetting_iff.mp (readInteger_eq_ok_iff.mp h)).2.1
  have : (2 ^ 63 : Nat) ≤ maxWord := by decide
  omega

section

variable {lowest : Int} {refusal : String → SettingsError} {text : String}

/-- What is no integer is refused before any bound is looked at. -/
theorem reader_of_error {e : SettingsError} (h : readInteger text = .error e) :
    reader lowest refusal text = .error e := by
  rw [reader, h]
  rfl

/-- Once there is an integer, the bound decides. -/
theorem reader_of_ok {n : Int} (h : readInteger text = .ok n) :
    reader lowest refusal text = if n < lowest then .error (refusal text) else .ok n.toNat := by
  rw [reader, h]
  change (if n < lowest then _ else if maxWord < n.toNat then _ else _) = _
  rw [if_neg (Nat.not_lt.mpr (toNat_le_maxWord h))]
  rfl

/-- There are two complaints: that of the reader of integers, and the
refusal of what is too low. -/
theorem reader_eq_error_iff {e : SettingsError} :
    reader lowest refusal text = .error e ↔
      readInteger text = .error e ∨ e = refusal text ∧ ∃ n < lowest, readInteger text = .ok n := by
  cases hread : readInteger text with
  | error e => simp [reader_of_error hread]
  | ok m =>
    rw [reader_of_ok hread]
    split
    next hlow => simp [hlow, eq_comm]
    next hhigh => simp [hhigh]

/-- A reader with a lower bound takes and refuses what it should, for any
bound and any complaint that isn't the one about large numbers. -/
theorem readsFrom_reader (hlowest : 0 ≤ lowest) (hrefusal : ∀ t t', refusal t ≠ .outOfRange t') :
    ReadsFrom lowest refusal (reader lowest refusal) where
  ok text n := by
    cases hread : readInteger text with
    | error e => simp [reader_of_error hread]
    | ok m =>
      rw [reader_of_ok hread]
      split
      next hlow =>
        simp only [reduceCtorEq, Except.ok.injEq, false_iff]
        omega
      next hhigh =>
        simp only [Except.ok.injEq]
        omega
  error _ _ := reader_eq_error_iff
  ne_outOfRange text text' hread := by
    rcases reader_eq_error_iff.mp hread with hinteger | ⟨heq, -⟩
    · exact nomatch (readInteger_eq_error_iff.mp hinteger).1
    · exact hrefusal _ _ heq.symm

end

/-- Positive integers are read from one on. Anything below one is not
positive. -/
theorem readPositive_eq : readPositive = reader 1 .notPositive := by
  funext text
  have hbound : ∀ n : Int, n ≤ 0 ↔ n < 1 := fun n => Int.lt_add_one_iff.symm
  simp only [readPositive, reader, hbound]

/-- Numbers that aren't negative are read from zero on. -/
theorem readNonNegative_eq : readNonNegative = reader 0 .negative :=
  rfl

/-- Memory has room for every natural word, so sizes are read like other
numbers from zero on. -/
theorem readSize_eq : readSize = reader 0 .negative := by
  funext text
  rw [readSize, readNonNegative_eq]
  cases hread : readInteger text with
  | error e =>
    rw [reader_of_error hread]
    rfl
  | ok n =>
    rw [reader_of_ok hread]
    split
    next => rfl
    next => exact if_neg (Nat.not_lt.mpr (toNat_le_maxWord hread))

/-- A signed word in decimal stands for itself. So what is printed for a
setting can be given back as one. -/
theorem isSetting_toString (i : Int64) : IsSetting (toString i) i.toInt := by
  rw [isSetting_iff, Decimal.fitsWord_iff]
  have hword : -2 ^ 63 ≤ i.toInt ∧ i.toInt < 2 ^ 63 := ⟨i.le_toInt, i.toInt_lt⟩
  change SpellsInteger (Int.repr i.toInt).toList i.toInt ∧ _ ∧ (_ → Int.repr i.toInt = "0")
  refine ⟨?_, hword, fun hzero => by rw [hzero]; rfl⟩
  cases i.toInt with
  | ofNat n =>
    change SpellsInteger (Nat.repr n).toList n
    rw [Nat.toList_repr]
    exact .unsigned (Decimal.spellsNatural_digits n)
  | negSucc n =>
    change SpellsInteger ("-" ++ Nat.repr (n + 1)).toList (-(n + 1 : Nat))
    rw [String.toList_append, Nat.toList_repr]
    exact .minus (Decimal.spellsNatural_digits (n + 1))

/-- The reader of integers takes `0` and the texts that spell another
signed word, and it could as well read digit by digit in words. The
readers of natural numbers take the same as far as their bounds allow, and
never find one too large. A signed word in decimal is read back. -/
theorem readers_acceptExactly :
    (∀ text n, readInteger text = .ok n ↔ IsSetting text n) ∧
    (∀ text, readInteger text = .error (.notAnInteger text) ↔ ∀ n, ¬ IsSetting text n) ∧
    (∀ text n, readInteger text = .ok n ↔
      signedInWords? text.toList = some n ∧ (n = 0 → text = "0")) ∧
    ReadsFrom 1 .notPositive readPositive ∧
    ReadsFrom 0 .negative readNonNegative ∧
    ReadsFrom 0 .negative readSize ∧
    ∀ i : Int64, readInteger (toString i) = .ok i.toInt := by
  have hpositive : ReadsFrom 1 .notPositive readPositive := by
    rw [readPositive_eq]
    exact readsFrom_reader (by decide) fun _ _ => SettingsError.noConfusion
  have hnegative : ReadsFrom 0 .negative (reader 0 .negative) :=
    readsFrom_reader (Int.le_refl 0) fun _ _ => SettingsError.noConfusion
  refine ⟨fun _ _ => readInteger_eq_ok_iff, fun text => ?_, fun text n => ?_, hpositive,
    readNonNegative_eq ▸ hnegative, readSize_eq ▸ hnegative, fun i => ?_⟩
  · simp [readInteger_eq_error_iff]
  · rw [readInteger_eq_ok_iff, isSetting_iff, Decimal.signedInWords?_eq_some_iff, and_assoc]
  · exact readInteger_eq_ok_iff.mpr (isSetting_toString i)

end MapBench
