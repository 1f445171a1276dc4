import MapBench.Batch.Generate
import MapBench.Proofs.Number.Decimal

/-!
# `MapBench.Proofs.Batch.Generate`: what made-up batches hold

A batch is a stretch of one sequence of pairs, so batches that follow
each other are a longer stretch. Making one up fails exactly if the
stretch has an index that is too wide for a key.

* `Key.isOf_iff`, `Pair.isValueOf_iff`: what keys and values are.
* `Key.text_injective`: different indexes have different keys.
* `Batch.generate_eq`: a batch is a stretch of the sequence, or the
  index that has no key.
* `Batch.generate_eq_error_iff`, `Batch.generate_eq_ok_iff`: which of the
  two it is.
-/

set_option autoImplicit false

namespace MapBench

namespace Key

/-- How many indexes have a key: as many as there are numbers of the width
of a key. -/
def limit : Nat := Nat.pow 10 width

/-- The digits of an index, filled up to the width of a key. For an index
without a key they are wider than that. -/
def text (index : Nat) : String :=
  String.ofList (Decimal.padded width index)

/-- Whether a text is the eight digits of an index. This says what a key is
without saying how it is made. -/
structure IsOf (index : Nat) (key : String) : Prop where
  length : key.toList.length = 8
  isDigit : ∀ c ∈ key.toList, c.isDigit
  value : Decimal.value key.toList = index

/-- An index has a key exactly if it is below the limit. Nothing else can go
wrong when a key is made. -/
theorem ofIndex_eq (index : Nat) :
    ofIndex index = if index < limit then .ok (text index) else .error (.tooWide index) := by
  have hfits := Decimal.length_padded_le_iff (n := index) (show 0 < width by decide)
  simp only [ofIndex, text, limit, ← hfits, ← Nat.not_le]
  split <;> simp_all

/-- Different indexes have different keys. So pairs of different indexes
never overwrite each other in a map. -/
theorem text_injective {i j : Nat} (h : text i = text j) : i = j := by
  have hdigits := String.ofList_injective h
  rw [← Decimal.value_padded width i, hdigits, Decimal.value_padded]

/-- The key of an index is the only text of eight digits that denote
the index. -/
theorem isOf_iff {index : Nat} {key : String} (h : index < limit) :
    IsOf index key ↔ key = text index := by
  constructor
  · rintro ⟨hlength, hdigits, hvalue⟩
    have hpadded : key.toList = Decimal.padded width index := by
      refine Decimal.value_injective hdigits Decimal.padded_isDigit ?_ ?_
      · rw [hlength, Decimal.length_padded h (by decide)]
        rfl
      · rw [hvalue, Decimal.value_padded]
    rw [text, ← hpadded, String.ofList_toList]
  · rintro rfl
    rw [text]
    refine ⟨?_, ?_, ?_⟩ <;> rw [String.toList_ofList]
    · exact Decimal.length_padded h (by decide)
    · exact Decimal.padded_isDigit
    · exact Decimal.value_padded width index

/-- A key is not empty, so a store never refuses a made-up pair for its key. -/
theorem text_ne_empty {index : Nat} (h : index < limit) : text index ≠ "" := by
  have hlength := ((isOf_iff h).mpr rfl).length
  intro hempty
  rw [hempty] at hlength
  simp at hlength

/-- All keys are equally long. So the rows of a run are, too, and a store
takes all of them or none. -/
theorem utf8ByteSize_text {index : Nat} (h : index < limit) : (text index).utf8ByteSize = width := by
  rw [text, Decimal.utf8ByteSize_ofList Decimal.padded_isDigit, Decimal.length_padded h (by decide)]

end Key

/-- Whether bytes are the value of a pair: so many digits, counting
up from the index and starting over after nine. -/
structure Pair.IsValueOf (size index : Nat) (value : List UInt8) : Prop where
  length : value.length = size
  digit : ∀ k < size, value[k]? = some (48 + (index + k) % 10).toUInt8

/-- A value has the size that was asked for. -/
theorem length_rotatingDigits (index size : Nat) : (rotatingDigits index size).length = size := by
  rw [rotatingDigits, List.length_map, List.length_range]

/-- The made-up value of an index is the only value of its size with
these digits. -/
theorem Pair.isValueOf_iff {size index : Nat} {value : List UInt8} :
    Pair.IsValueOf size index value ↔ value = rotatingDigits index size := by
  have hdigit : ∀ k < size, (rotatingDigits index size)[k]? = some (48 + (index + k) % 10).toUInt8 := by
    intro k hk
    simp [rotatingDigits, List.getElem?_range hk]
  constructor
  · rintro ⟨hlength, h⟩
    refine List.ext_getElem? fun k => ?_
    by_cases hk : k < size
    · rw [h k hk, hdigit k hk]
    · rw [List.getElem?_eq_none (by omega),
        List.getElem?_eq_none (by rw [length_rotatingDigits]; omega)]
  · rintro rfl
    exact ⟨length_rotatingDigits index size, hdigit⟩

/-- The pair of an index, if the index has a key. It doesn't depend on the
batch that it is part of. -/
def Pair.generated (size index : Nat) : Pair :=
  ⟨Key.text index, rotatingDigits index size⟩

/-- The pairs of `count` indexes from `start` on, in their order. -/
def Pair.stretch (size start count : Nat) : List Pair :=
  (List.range' start count).map (Pair.generated size)

/-- A pair is made up exactly if its index has a key, since values can
always be made. -/
theorem Pair.atIndex_eq (size index : Nat) :
    Pair.atIndex size index =
      if index < Key.limit then .ok (Pair.generated size index) else .error (.tooWide index) := by
  rw [Pair.atIndex, Key.ofIndex_eq]
  split <;> rfl

namespace Pair

/-- A stretch has a pair for each of its indexes. -/
theorem length_stretch (size start count : Nat) : (stretch size start count).length = count := by
  rw [stretch, List.length_map, List.length_range']

/-- Two stretches that follow each other are one. This is what makes batches
pieces of one sequence. -/
theorem stretch_append (size start m n : Nat) :
    stretch size start m ++ stretch size (start + m) n = stretch size start (m + n) := by
  rw [stretch, stretch, stretch, ← List.map_append, List.range'_append_1]

/-- All values of a stretch together have so many bytes, as each of them has
the same size. -/
theorem valueBytes_stretch (size start count : Nat) :
    (Batch.mk (stretch size start count)).valueBytes = count * size := by
  induction count generalizing start with
  | zero => rw [Nat.zero_mul]; rfl
  | succ count ih =>
    have hrest := ih (start + 1)
    simp only [Batch.valueBytes, stretch, List.range'_succ, List.map_cons, List.foldr_cons,
      Pair.size, generated, length_rotatingDigits] at hrest ⊢
    rw [hrest, Nat.succ_mul, Nat.add_comm]

/-- The keys of a stretch are all different. So a map gets as many entries
from it as it has pairs. -/
theorem nodup_stretch (size start count : Nat) : ((stretch size start count).map key).Nodup := by
  rw [stretch, List.map_map]
  exact List.Pairwise.map _ (fun i j hne heq => hne (Key.text_injective heq)) List.nodup_range'

/-- The pairs of a stretch are those of its indexes and no others. -/
theorem mem_stretch {size start count : Nat} {p : Pair} :
    p ∈ stretch size start count ↔
      ∃ i, start ≤ i ∧ i < start + count ∧ p = generated size i := by
  simp only [stretch, List.mem_map, List.mem_range'_1, and_assoc, eq_comm]

end Pair

/-- If every step succeeds, so do all of them together. It is stated for any
monad, as batches are made up in more than one way. -/
theorem mapM_eq_pure {α β : Type} {m : Type → Type} [Monad m] [LawfulMonad m] {f : α → m β} {g : α → β}
    {as : List α} (h : ∀ a ∈ as, f a = pure (g a)) : as.mapM f = pure (as.map g) := by
  induction as with
  | nil => rw [List.mapM_nil, List.map_nil]
  | cons a as ih =>
    rw [List.mapM_cons, h a List.mem_cons_self, ih fun a ha => h a (List.mem_cons_of_mem _ ha),
      pure_bind, pure_bind, List.map_cons]

/-- A batch is a stretch of the sequence of pairs. It can't be made
up exactly if its last index is too wide for a key; that index is
named. -/
theorem Batch.generate_eq (count start size : Nat) :
    Batch.generate count start size =
      if 0 < count ∧ Key.limit < start + count then .error (.tooWide (start + count - 1))
      else .ok ⟨Pair.stretch size start count⟩ := by
  have hpairs (hfits : count = 0 ∨ start + count ≤ Key.limit) :
      ((List.range count).mapM fun i => Pair.atIndex size (start + i)) =
        .ok (Pair.stretch size start count) := by
    have hsteps : ∀ i ∈ List.range count,
        Pair.atIndex size (start + i) = .ok (Pair.generated size (start + i)) := by
      intro i hi
      rw [List.mem_range] at hi
      rw [Pair.atIndex_eq, if_pos (by omega)]
    rw [mapM_eq_pure hsteps, Pair.stretch, List.range'_eq_map_range, List.map_map]
    rfl
  by_cases hcount : 0 < count
  · by_cases hlast : Key.limit < start + count
    · rw [if_pos ⟨hcount, hlast⟩, Batch.generate, if_pos hcount, Key.ofIndex_eq, if_neg (by omega)]
      rfl
    · rw [if_neg (fun h => hlast h.2), Batch.generate, if_pos hcount, Key.ofIndex_eq,
        if_pos (by omega), hpairs (.inr (by omega))]
      rfl
  · rw [if_neg (fun h => hcount h.1), Batch.generate, if_neg hcount, hpairs (.inl (by omega))]
    rfl

/-- Making up a batch fails in one way only: its last index has no key. The
error tells that index, and not the first one without a key. -/
theorem Batch.generate_eq_error_iff {count start size : Nat} {e : KeyError} :
    Batch.generate count start size = .error e ↔
      (0 < count ∧ Key.limit < start + count) ∧ e = .tooWide (start + count - 1) := by
  rw [Batch.generate_eq]
  split
  next hwide => simp only [hwide, and_self, true_and, Except.error.injEq, eq_comm]
  next hfits => simp only [hfits, false_and, reduceCtorEq]

/-- It succeeds exactly if there are no pairs to make up, or the last index
has a key. -/
theorem Batch.generate_eq_ok_iff {count start size : Nat} {b : Batch} :
    Batch.generate count start size = .ok b ↔
      (count = 0 ∨ start + count ≤ Key.limit) ∧ b = ⟨Pair.stretch size start count⟩ := by
  rw [Batch.generate_eq]
  split
  next hwide =>
    refine iff_of_false (by simp) fun h => ?_
    omega
  next hfits =>
    rw [Except.ok.injEq, eq_comm]
    exact ⟨fun h => ⟨by omega, h⟩, And.right⟩

end MapBench
