import MapBench.Proofs.Batch.Generate
import MapBench.Proofs.Json.Lexing

/-!
# `MapBench.Proofs.Batch.Sequence`: batches are pieces of one sorted sequence

The pair of an index is the same in every batch, and keys sort the way
their indexes do. So batches are pieces of one sequence, which is sorted
by its keys, and two that follow each other are a longer one.

Keys are compared as a store compares them: byte by byte.

* `Key.compare_text`: keys sort the way their indexes do.
* `Batch.IsPiece`: what a batch has at each of its places.
* `Batch.generate_isPiece`: which batches can be made up, what they hold,
  and how they sort and split.
-/

set_option autoImplicit false

namespace MapBench

namespace Decimal

/-- Two numbers are compared by how often they hold a place, and then by
what is left of them. -/
theorem compare_places {place m n r s : Nat} (hr : r < place) (hs : s < place) :
    compare (place * m + r) (place * n + s) = (compare m n).then (compare r s) := by
  rcases Nat.lt_trichotomy m n with h | rfl | h
  · have hnext := Nat.mul_le_mul_left place (Nat.succ_le_of_lt h)
    rw [Nat.mul_succ] at hnext
    rw [Nat.compare_eq_lt.mpr h, Nat.compare_eq_lt.mpr (by omega)]
    rfl
  · rw [Nat.compare_eq_ite_lt, Nat.compare_eq_ite_lt r s]
    simp
  · have hnext := Nat.mul_le_mul_left place (Nat.succ_le_of_lt h)
    rw [Nat.mul_succ] at hnext
    rw [Nat.compare_eq_gt.mpr h, Nat.compare_eq_gt.mpr (by omega)]
    rfl

/-- The bytes of two digits are compared like what the digits denote. A
store compares bytes and knows nothing of digits. -/
theorem compare_digitByte {a b : Char} (ha : a.isDigit) (hb : b.isDigit) :
    compare a.toNat.toUInt8 b.toNat.toUInt8 = compare (a.toNat - 48) (b.toNat - 48) := by
  have ha := Char.isDigit_iff_toNat.mp ha
  have hb := Char.isDigit_iff_toNat.mp hb
  have : '0'.toNat = 48 := rfl
  have : '9'.toNat = 57 := rfl
  rw [Nat.compare_eq_ite_lt]
  simp only [compare, compareOfLessAndEq, UInt8.lt_iff_toNat_lt, ← UInt8.toNat_inj,
    Utf8.toNat_toUInt8 (show a.toNat < 256 by omega), Utf8.toNat_toUInt8 (show b.toNat < 256 by omega)]
  grind

/-- Digits of one width are compared, byte by byte, like the numbers that
they denote. -/
theorem compare_digitBytes {as bs : List Char} (has : ∀ c ∈ as, c.isDigit) (hbs : ∀ c ∈ bs, c.isDigit)
    (hlength : as.length = bs.length) :
    compare (as.map fun c => c.toNat.toUInt8) (bs.map fun c => c.toNat.toUInt8) =
      compare (value as) (value bs) := by
  -- The first digits decide, unless they are the same: what follows is less than one of their place.
  induction as generalizing bs with
  | nil =>
    obtain rfl := List.eq_nil_of_length_eq_zero hlength.symm
    rfl
  | cons a as ih =>
    cases bs with
    | nil => simp at hlength
    | cons b bs =>
      have htails : as.length = bs.length := by simpa using hlength
      have has' : ∀ c ∈ as, c.isDigit := fun c hc => has c (List.mem_cons_of_mem _ hc)
      have hbs' : ∀ c ∈ bs, c.isDigit := fun c hc => hbs c (List.mem_cons_of_mem _ hc)
      rw [List.map_cons, List.map_cons, List.compare_cons_cons, ih has' hbs' htails,
        compare_digitByte (has a List.mem_cons_self) (hbs b List.mem_cons_self), value_cons, value_cons,
        htails, compare_places (htails ▸ value_lt has') (value_lt hbs')]

end Decimal

/-- Keys sort the way their indexes do. All of them have the same width, so
the first digit that differs decides in both orders. -/
theorem Key.compare_text {i j : Nat} (hi : i < limit) (hj : j < limit) :
    compare (Utf8.encode (text i)) (Utf8.encode (text j)) = compare i j := by
  have hwidth : (Decimal.padded width i).length = (Decimal.padded width j).length := by
    rw [Decimal.length_padded hi (by decide), Decimal.length_padded hj (by decide)]
  rw [Utf8.encode, Utf8.encode, text, text, String.toList_ofList, String.toList_ofList,
    Json.encodeChars_digits Decimal.padded_isDigit, Json.encodeChars_digits Decimal.padded_isDigit,
    Decimal.compare_digitBytes Decimal.padded_isDigit Decimal.padded_isDigit hwidth,
    Decimal.value_padded, Decimal.value_padded]

/-- What stands at a place of a stretch is the pair of the index that many
further on. -/
theorem Pair.getElem?_stretch {size start count j : Nat} {p : Pair} :
    (stretch size start count)[j]? = some p ↔ j < count ∧ p = generated size (start + j) := by
  rw [stretch, List.getElem?_map, Option.map_eq_some_iff]
  constructor
  · rintro ⟨index, hindex, rfl⟩
    obtain ⟨hj, rfl⟩ := List.getElem?_eq_some_iff.mp hindex
    rw [List.length_range'] at hj
    exact ⟨hj, by rw [List.getElem_range', Nat.one_mul]⟩
  · rintro ⟨hj, rfl⟩
    exact ⟨start + j, by rw [List.getElem?_range' hj, Nat.one_mul], rfl⟩

namespace Batch

/-- A batch has one pair for each of `count` indexes from `start` on, in
order, with the key and a value of the index. -/
structure IsPiece (count start size : Nat) (b : Batch) : Prop where
  length : b.pairs.length = count
  key : ∀ j p, b.pairs[j]? = some p → Key.IsOf (start + j) p.key
  value : ∀ j p, b.pairs[j]? = some p → Pair.IsValueOf size (start + j) p.value

/-- There is one such batch, if all its indexes have keys. So the rules
leave nothing open. -/
theorem isPiece_iff {count start size : Nat} {b : Batch} (h : count = 0 ∨ start + count ≤ Key.limit) :
    IsPiece count start size b ↔ b = ⟨Pair.stretch size start count⟩ := by
  constructor
  · rintro ⟨hlength, hkey, hvalue⟩
    obtain ⟨pairs⟩ := b
    refine congrArg Batch.mk (List.ext_getElem? fun j => ?_)
    cases hp : pairs[j]? with
    | none =>
      have hpast := List.getElem?_eq_none_iff.mp hp
      rw [List.getElem?_eq_none]
      rwa [Pair.length_stretch, ← hlength]
    | some p =>
      obtain ⟨hj, -⟩ := List.getElem?_eq_some_iff.mp hp
      have hj : j < count := hlength ▸ hj
      have hk := (Key.isOf_iff (show start + j < Key.limit by omega)).mp (hkey j p hp)
      have hv := Pair.isValueOf_iff.mp (hvalue j p hp)
      exact (Pair.getElem?_stretch.mpr ⟨hj, by rw [Pair.generated, ← hk, ← hv]⟩).symm
  · rintro rfl
    refine ⟨Pair.length_stretch size start count, fun j p hp => ?_, fun j p hp => ?_⟩
    · obtain ⟨hj, rfl⟩ := Pair.getElem?_stretch.mp hp
      exact (Key.isOf_iff (show start + j < Key.limit by omega)).mpr rfl
    · obtain ⟨-, rfl⟩ := Pair.getElem?_stretch.mp hp
      exact Pair.isValueOf_iff.mpr rfl

variable {count start size count' start' size' : Nat} {b b' : Batch}

/-- Any two pairs of made-up batches are compared by their keys as by
their indexes. -/
theorem compare_of_generate (h : generate count start size = .ok b)
    (h' : generate count' start' size' = .ok b') {i j : Nat} {p q : Pair}
    (hp : b.pairs[i]? = some p) (hq : b'.pairs[j]? = some q) :
    compare (Utf8.encode p.key) (Utf8.encode q.key) = compare (start + i) (start' + j) := by
  obtain ⟨hfits, rfl⟩ := generate_eq_ok_iff.mp h
  obtain ⟨hfits', rfl⟩ := generate_eq_ok_iff.mp h'
  obtain ⟨hi, rfl⟩ := Pair.getElem?_stretch.mp hp
  obtain ⟨hj, rfl⟩ := Pair.getElem?_stretch.mp hq
  exact Key.compare_text (by omega) (by omega)

/-- Different places of made-up batches have the same key only for the
same index. -/
theorem key_eq_iff_of_generate (h : generate count start size = .ok b)
    (h' : generate count' start' size' = .ok b') {i j : Nat} {p q : Pair}
    (hp : b.pairs[i]? = some p) (hq : b'.pairs[j]? = some q) :
    p.key = q.key ↔ start + i = start' + j := by
  obtain ⟨-, rfl⟩ := generate_eq_ok_iff.mp h
  obtain ⟨-, rfl⟩ := generate_eq_ok_iff.mp h'
  obtain ⟨-, rfl⟩ := Pair.getElem?_stretch.mp hp
  obtain ⟨-, rfl⟩ := Pair.getElem?_stretch.mp hq
  exact ⟨Key.text_injective, congrArg Key.text⟩

/-- The keys of a made-up batch increase, as its indexes do. So none of its
pairs overwrites another. -/
theorem pairwise_of_generate (h : generate count start size = .ok b) :
    b.pairs.Pairwise fun p q => compare (Utf8.encode p.key) (Utf8.encode q.key) = .lt := by
  rw [List.pairwise_iff_getElem]
  intro i j hi hj hij
  rw [compare_of_generate h h (List.getElem?_eq_getElem hi) (List.getElem?_eq_getElem hj),
    Nat.compare_eq_lt]
  omega

/-- A batch that can be made up is made up of its beginning and its rest,
wherever it is split. -/
theorem generate_add {m n : Nat} (h : generate (m + n) start size = .ok b) :
    ∃ front rest, generate m start size = .ok front ∧ generate n (start + m) size = .ok rest ∧
      b = front.append rest := by
  obtain ⟨hfits, rfl⟩ := generate_eq_ok_iff.mp h
  refine ⟨_, _, generate_eq_ok_iff.mpr ⟨by omega, rfl⟩, generate_eq_ok_iff.mpr ⟨by omega, rfl⟩, ?_⟩
  rw [append, Pair.stretch_append]

/-- A batch can't be made up exactly if it has a last index and that index
is too wide for a key, which is then named. Otherwise the batch is the one
piece of the sequence that was asked for. All made-up pairs sort, byte by
byte, by their indexes, and a batch is what its beginning and its rest are
together. -/
theorem generate_isPiece :
    (∀ count start size e, generate count start size = .error e ↔
      (0 < count ∧ 100000000 < start + count) ∧ e = .tooWide (start + count - 1)) ∧
    (∀ count start size, ¬ (0 < count ∧ 100000000 < start + count) →
      ∃ b, generate count start size = .ok b ∧ ∀ b', IsPiece count start size b' ↔ b' = b) ∧
    (∀ count start size b, generate count start size = .ok b →
      b.pairs.Pairwise fun p q => compare (Utf8.encode p.key) (Utf8.encode q.key) = .lt) ∧
    (∀ count start size b count' start' size' b', generate count start size = .ok b →
      generate count' start' size' = .ok b' →
      ∀ i j p q, b.pairs[i]? = some p → b'.pairs[j]? = some q →
        compare (Utf8.encode p.key) (Utf8.encode q.key) = compare (start + i) (start' + j) ∧
        (p.key = q.key ↔ start + i = start' + j)) ∧
    ∀ m n start size b, generate (m + n) start size = .ok b →
      ∃ front rest, generate m start size = .ok front ∧ generate n (start + m) size = .ok rest ∧
        b = front.append rest := by
  refine ⟨fun _ _ _ _ => generate_eq_error_iff, fun count start size hnot => ?_,
    fun _ _ _ _ => pairwise_of_generate, fun _ _ _ _ _ _ _ _ h h' i j p q hp hq =>
      ⟨compare_of_generate h h' hp hq, key_eq_iff_of_generate h h' hp hq⟩,
    fun _ _ _ _ _ => generate_add⟩
  have hlimit : Key.limit = 100000000 := rfl
  have hfits : count = 0 ∨ start + count ≤ Key.limit := by omega
  exact ⟨_, generate_eq_ok_iff.mpr ⟨hfits, rfl⟩, fun b' => isPiece_iff hfits⟩

/-- Two pairs on either side of a hundred, and a pair behind the last key. -/
theorem generate_isPiece_hundred :
    generate (1 + 1) 99 3 = .ok ⟨[⟨"00000099", [57, 48, 49]⟩, ⟨"00000100", [48, 49, 50]⟩]⟩ ∧
      compare (Utf8.encode "00000099") (Utf8.encode "00000100") = compare 99 100 ∧
      (∃ front rest, generate 1 99 3 = .ok front ∧ generate 1 100 3 = .ok rest ∧
        ⟨[⟨"00000099", [57, 48, 49]⟩, ⟨"00000100", [48, 49, 50]⟩]⟩ = front.append rest) ∧
      generate 2 99999999 3 = .error (.tooWide 100000000) := by
  have hmade : generate (1 + 1) 99 3 =
      .ok ⟨[⟨"00000099", [57, 48, 49]⟩, ⟨"00000100", [48, 49, 50]⟩]⟩ := by rfl
  obtain ⟨hfails, -, -, hsorts, hsplits⟩ := generate_isPiece
  exact ⟨hmade, (hsorts _ _ _ _ _ _ _ _ hmade hmade 0 1 _ _ rfl rfl).1, hsplits _ _ _ _ _ hmade,
    (hfails 2 99999999 3 _).mpr ⟨by decide, rfl⟩⟩

end Batch

end MapBench
