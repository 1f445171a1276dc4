import MapBench.Proofs.Batch.Wire
import MapBench.Proofs.Json.Records

/-!
# `MapBench.Proofs.Batch.Rendering`: all the texts of a batch

A batch may be sent in many ways: with blanks, with its records as
objects in any order and with other members, or as arrays, and with
escapes in strings. Every such text is read as its batch, and nothing
else is read as a batch.

* `Pair.IsForm`, `Batch.IsForm`: the JSON values of a pair and of a
  batch.
* `Batch.IsRendering`: the texts of a batch.
* `Pair.ofJson?_eq_some_iff`, `Batch.ofJson?_eq_some_iff`: the values
  that are read.
* `Batch.IsDefective`: values in which some record or byte is wrong.
* `Batch.readsRenderings`: what is read of any text.
-/

set_option autoImplicit false

namespace MapBench

open Json (digitBytes IsSpelling)
open Json.Value (IsField IsMisfit IsRecord IsWritable)

/-! ### Numbers -/

namespace Json

/-- A number that is written with nothing but digits has no zero before
other ones. -/
theorem IsNumber.eq_zero_or_cons {text : List UInt8} (h : IsNumber text) (hdigits : AreDigits text) :
    text = [48] ∨ ∃ d ds, text = d :: ds ∧ d ≠ 48 := by
  have hnot {b : UInt8} (hb : b ∈ text) (h : isDigit b = false) : False := by
    rw [hdigits b hb] at h
    cases h
  obtain ⟨isInteger, isFraction, isExponent⟩ := h
  -- Signs, points and letters are no digits.
  cases isFraction with
  | digits => exact (hnot (by simp) (show isDigit 46 = false from rfl)).elim
  | none =>
    cases isExponent with
    | @digits letter d sign ds letter_eq =>
      have hletter : isDigit letter = false := by
        rcases letter_eq with rfl | rfl <;> rfl
      exact (hnot (by simp) hletter).elim
    | none =>
      cases isInteger with
      | zero minus_eq =>
        rcases minus_eq with rfl | rfl
        · exact .inl rfl
        · exact (hnot (by simp) (show isDigit 45 = false from rfl)).elim
      | @digits minus ds d minus_eq first nonzero more =>
        rcases minus_eq with rfl | rfl
        · exact .inr ⟨d, ds, by simp, nonzero⟩
        · exact (hnot (by simp) (show isDigit 45 = false from rfl)).elim

/-- A byte that is a digit is the byte of a character that is one. Numbers
are read as bytes and spelled as characters. -/
theorem isDigit_ofNat {b : UInt8} (h : isDigit b) :
    (Char.ofNat b.toNat).toNat = b.toNat ∧ (Char.ofNat b.toNat).isDigit := by
  have hrange : 48 ≤ b.toNat ∧ b.toNat ≤ 57 := by
    simpa [isDigit, UInt8.le_iff_toNat_le] using h
  have hnat : (Char.ofNat b.toNat).toNat = b.toNat := Utf8.toNat_ofNat (by omega)
  refine ⟨hnat, Char.isDigit_iff_toNat.mpr ?_⟩
  rw [hnat]
  exact hrange

/-- Digits of which the first isn't zero are those of the number that they
denote. -/
theorem digitBytes_value {d : UInt8} {ds : List UInt8} (h : AreDigits (d :: ds)) (hd : d ≠ 48) :
    digitBytes (Decimal.value ((d :: ds).map fun b => Char.ofNat b.toNat)) = d :: ds := by
  have hall : ∀ c ∈ (d :: ds).map fun b => Char.ofNat b.toNat, c.isDigit := by
    intro c hc
    obtain ⟨b, hb, rfl⟩ := List.mem_map.mp hc
    exact (isDigit_ofNat (h b hb)).2
  have hfirst : Char.ofNat d.toNat ≠ '0' := by
    intro hzero
    have hnat := (isDigit_ofNat (h d List.mem_cons_self)).1
    rw [hzero] at hnat
    exact hd (UInt8.toNat_inj.mp hnat.symm)
  rw [List.map_cons] at hall ⊢
  rw [digitBytes, Decimal.digits_value hall hfirst, encodeChars_digits hall]
  show ((d :: ds).map fun b => Char.ofNat b.toNat).map _ = d :: ds
  rw [List.map_map]
  conv => rhs; rw [← List.map_id (d :: ds)]
  refine List.map_congr_left fun b hb => ?_
  rw [Function.comp_apply, (isDigit_ofNat (h b hb)).1, Utf8.toUInt8_toNat rfl]
  rfl

/-- Digits alone are a number only if they are the ones that it is written
with. -/
theorem IsNumber.eq_digitBytes {text : List UInt8} (h : IsNumber text) (hdigits : AreDigits text) :
    text = digitBytes (Decimal.value (text.map fun b => Char.ofNat b.toNat)) := by
  obtain rfl | ⟨d, ds, rfl, hd⟩ := h.eq_zero_or_cons hdigits
  · decide
  · exact (digitBytes_value hdigits hd).symm

end Json

namespace Json.Value

/-- A natural number is read from its digits, and from nothing else: not
with a sign, a point or an exponent, even if it would be the same number. -/
theorem natural?_eq_some_iff {limit n : Nat} {v : Value} (hv : v.IsWritable) :
    natural? limit v = some n ↔ n ≤ limit ∧ v = .number (digitBytes n) := by
  constructor
  · intro h
    cases v with
    | number text =>
      rw [natural?] at h
      split at h
      · next hall =>
        have htext := hv.isNumber.eq_digitBytes (List.all_eq_true.mp hall)
        dsimp only at h
        split at h
        · next hle =>
          cases h
          exact ⟨hle, congrArg _ htext⟩
        · cases h
      · cases h
    | _ => cases h
  · rintro ⟨hle, rfl⟩
    exact natural?_digitBytes hle

end Json.Value

/-! ### Pairs and batches as values -/

/-- The JSON values of a pair: a record of a string that spells the key,
and of an array of numbers. -/
def Pair.IsForm (p : Pair) (v : Json.Value) : Prop :=
  ∃ key, IsSpelling p.key.toList key ∧ IsRecord [("key", .string key),
    ("value", .array (p.value.map fun b => .number (digitBytes b.toNat)))] v

/-- The JSON values of a batch: a record of an array of its pairs. The pairs
keep their order, and each of them may have its own form. -/
def Batch.IsForm (b : Batch) (v : Json.Value) : Prop :=
  ∃ pairs, List.Forall₂ Pair.IsForm b.pairs pairs ∧ IsRecord [("pairs", .array pairs)] v

/-- The texts of a batch: those of its forms. A form leaves open how strings
are escaped and where blanks stand, and its texts leave open neither. -/
def Batch.IsRendering (b : Batch) (bytes : List UInt8) : Prop :=
  ∃ v, b.IsForm v ∧ v.IsText bytes

/-- Numbers that are read as bytes are written with the digits of those
bytes. -/
theorem eq_map_of_natural? {elements : List Json.Value} {ns : List Nat}
    (h : elements.mapM (Json.Value.natural? 255) = some ns) (hv : ∀ v ∈ elements, v.IsWritable) :
    elements = (ns.map Nat.toUInt8).map fun b => .number (digitBytes b.toNat) := by
  rw [Json.mapM_eq_some_iff fun v hw n => Json.Value.natural?_eq_some_iff (hv v hw)] at h
  clear hv
  induction h with
  | nil => rfl
  | @cons v n elements ns hn _ ih =>
    obtain ⟨hle, rfl⟩ := hn
    rw [List.map_cons, List.map_cons, Utf8.toNat_toUInt8 (by omega), ← ih]

/-- A pair is read from its forms, and from nothing else. Whether the record
is an array or an object is left to the reader of fields. -/
theorem Pair.ofJson?_eq_some_iff {p : Pair} {v : Json.Value} (hv : v.IsWritable) :
    ofJson? v = some p ↔ p.IsForm v := by
  have hfields (key value : Json.Value) : v.fields? ["key", "value"] = some [key, value] ↔
      IsRecord [("key", key), ("value", value)] v := by
    rw [Json.Value.fields?_eq_some_iff hv (by decide)]
    exact and_iff_right rfl
  rw [ofJson?]
  simp only [Option.bind_eq_bind, Option.bind_eq_some_iff]
  constructor
  · rintro ⟨fs, hfs, hp⟩
    obtain ⟨hlength, -⟩ := (Json.Value.fields?_eq_some_iff hv (by decide)).mp hfs
    obtain ⟨key, value, rfl⟩ := List.length_eq_two.mp hlength
    have hrecord := (hfields key value).mp hfs
    have hwritable := hrecord.isWritable hv
    simp only [Option.bind_eq_some_iff] at hp
    obtain ⟨s, hs, elements, helements, ns, hns, hp⟩ := hp
    cases hp
    -- Only strings have a text, and only arrays have elements.
    cases key with
    | string items =>
      cases value with
      | array values =>
        cases helements
        have hkey : IsSpelling s.toList items :=
          (Json.itemsText?_eq_some_iff (hwritable _ List.mem_cons_self).inUnits).mp hs
        have hvalues : (Json.Value.array elements).IsWritable := hwritable ("value", _) (by simp)
        have hvalue := eq_map_of_natural? hns fun v hv' => hvalues.element hv'
        exact ⟨items, hkey, hvalue ▸ hrecord⟩
      | _ => cases helements
    | _ => cases hs
  · rintro ⟨key, hkey, hrecord⟩
    refine ⟨_, (hfields _ _).mpr hrecord, ?_⟩
    have hbytes : (p.value.map UInt8.toNat).map Nat.toUInt8 = p.value := by
      simp [List.map_map, Function.comp_def]
    simp only [Json.Value.text?, hkey.itemsText?, String.ofList_toList, Json.Value.elements?,
      Json.Value.mapM_natural?_bytes, Option.bind_some, hbytes]
    rfl

/-- The pairs of a batch are read one by one, each from one of its forms. -/
theorem Pair.mapM_ofJson?_eq_some_iff {pairs : List Json.Value} {ps : List Pair}
    (h : ∀ v ∈ pairs, v.IsWritable) :
    pairs.mapM ofJson? = some ps ↔ List.Forall₂ IsForm ps pairs := by
  rw [Json.mapM_eq_some_iff fun v hv p => ofJson?_eq_some_iff (h v hv)]
  exact ⟨List.Forall₂.flip, List.Forall₂.flip⟩

/-- A batch is read from its forms, and from nothing else. Reading may not
leave out a pair that is none: then there is no batch at all. -/
theorem Batch.ofJson?_eq_some_iff {b : Batch} {v : Json.Value} (hv : v.IsWritable) :
    ofJson? v = some b ↔ b.IsForm v := by
  have hfields (pairs : Json.Value) :
      v.fields? ["pairs"] = some [pairs] ↔ IsRecord [("pairs", pairs)] v := by
    rw [Json.Value.fields?_eq_some_iff hv (by decide)]
    exact and_iff_right rfl
  rw [ofJson?]
  simp only [Option.bind_eq_bind, Option.bind_eq_some_iff]
  constructor
  · rintro ⟨fs, hfs, hb⟩
    -- One field is asked for, so there is one value for it.
    obtain ⟨hlength, -⟩ := (Json.Value.fields?_eq_some_iff hv (by decide)).mp hfs
    obtain ⟨pairs, rfl⟩ := List.length_eq_one_iff.mp hlength
    have hrecord := (hfields pairs).mp hfs
    have hwritable := hrecord.isWritable hv
    simp only [Option.bind_eq_some_iff] at hb
    obtain ⟨elements, helements, ps, hps, hb⟩ := hb
    cases hb
    -- Its elements can only be those of an array.
    cases pairs with
    | array pairs =>
      cases helements
      have hpairs : (Json.Value.array elements).IsWritable := hwritable ("pairs", _) (by simp)
      exact ⟨elements, (Pair.mapM_ofJson?_eq_some_iff fun w hw => hpairs.element hw).mp hps, hrecord⟩
    | _ => cases helements
  · rintro ⟨pairs, hforms, hrecord⟩
    refine ⟨_, (hfields _).mpr hrecord, ?_⟩
    have hpairs : (Json.Value.array pairs).IsWritable := hrecord.isWritable hv ("pairs", _) (by simp)
    have hps := (Pair.mapM_ofJson?_eq_some_iff fun w hw => hpairs.element hw).mpr hforms
    simp only [Json.Value.elements?, Option.bind_some, hps]
    rfl

/-- A batch is read from its texts, and from nothing else. So the bytes that
a request brings either are a batch or are refused. -/
theorem Batch.decode?_eq_some_iff {b : Batch} {bytes : List UInt8} :
    decode? bytes = some b ↔ b.IsRendering bytes := by
  rw [decode?, Option.bind_eq_some_iff]
  constructor
  · rintro ⟨v, hv, hb⟩
    rw [Json.Value.ofBytes?_eq_some_iff] at hv
    exact ⟨v, (ofJson?_eq_some_iff hv.isWritable).mp hb, hv⟩
  · rintro ⟨v, hb, hv⟩
    exact ⟨v, Json.Value.ofBytes?_eq_some_iff.mpr hv, (ofJson?_eq_some_iff hv.isWritable).mpr hb⟩

/-! ### What is no batch -/

/-- Values in which a record misses a field or has one twice, an array has
another length than the record that it stands for, or a byte is no number
of one. -/
inductive Batch.IsDefective (v : Json.Value) : Prop
  | batch (misfit : IsMisfit ["pairs"] v)
  | pair {pairs : List Json.Value} {p : Json.Value} (field : IsField ["pairs"] 0 v (.array pairs))
      (mem : p ∈ pairs) (misfit : IsMisfit ["key", "value"] p)
  | byte {pairs bytes : List Json.Value} {p w : Json.Value} (field : IsField ["pairs"] 0 v (.array pairs))
      (mem : p ∈ pairs) (value : IsField ["key", "value"] 1 p (.array bytes)) (mem_bytes : w ∈ bytes)
      (other : ∀ n ≤ 255, w ≠ .number (digitBytes n))

/-- The form of a pair is a record with the fields of a pair. -/
theorem Pair.IsForm.not_isMisfit {p : Pair} {v : Json.Value} (h : p.IsForm v) :
    ¬ IsMisfit ["key", "value"] v := by
  obtain ⟨key, -, hrecord⟩ := h
  exact hrecord.not_isMisfit (show ["key", "value"].Nodup by decide)

/-- The bytes of a pair are plain numbers up to 255, whatever else its form
looks like. -/
theorem Pair.IsForm.exists_eq_number {p : Pair} {v : Json.Value} (h : p.IsForm v) {bytes : List Json.Value}
    (hfield : IsField ["key", "value"] 1 v (.array bytes)) {w : Json.Value} (hw : w ∈ bytes) :
    ∃ n ≤ 255, w = .number (digitBytes n) := by
  obtain ⟨key, -, hrecord⟩ := h
  have hvalue := hrecord.eq_of_isField (show ["key", "value"].Nodup by decide) hfield
  simp only [List.map_cons, List.getElem?_cons_succ, List.getElem?_cons_zero, Option.some_inj,
    Json.Value.array.injEq] at hvalue
  rw [← hvalue] at hw
  obtain ⟨b, -, rfl⟩ := List.mem_map.mp hw
  exact ⟨b.toNat, Nat.le_of_lt_succ b.toNat_lt, rfl⟩

/-- No form of a batch is defective. So what is defective is refused, as
only forms are read. -/
theorem Batch.IsForm.not_isDefective {b : Batch} {v : Json.Value} (h : b.IsForm v) : ¬ IsDefective v := by
  obtain ⟨pairs, hpairs, hrecord⟩ := h
  have hform {elements : List Json.Value} (hfield : IsField ["pairs"] 0 v (.array elements))
      {w : Json.Value} (hw : w ∈ elements) : ∃ p ∈ b.pairs, p.IsForm w := by
    have helements := hrecord.eq_of_isField (List.nodup_singleton _) hfield
    simp only [List.map_cons, List.getElem?_cons_zero, Option.some_inj, Json.Value.array.injEq] at helements
    rw [← helements] at hw
    exact Json.exists_of_forall₂ hpairs.flip hw
  intro hdefect
  cases hdefect with
  | batch misfit => exact hrecord.not_isMisfit (List.nodup_singleton _) misfit
  | pair field mem misfit =>
    obtain ⟨p, -, hp⟩ := hform field mem
    exact hp.not_isMisfit misfit
  | byte field mem value mem_bytes other =>
    obtain ⟨p, -, hp⟩ := hform field mem
    obtain ⟨n, hn, hw⟩ := hp.exists_eq_number value mem_bytes
    exact other n hn hw

/-- What is said of a reader of batches: it reads every text of a batch as
that batch, and nothing else as a batch. -/
structure Batch.ReadsRenderings (decode? : List UInt8 → Option Batch) : Prop where
  /-- What is read as a batch are exactly its texts. -/
  exactly : ∀ b bytes, decode? bytes = some b ↔ b.IsRendering bytes
  /-- What is written for a batch is one of them. -/
  encode : ∀ b : Batch, b.IsRendering b.encode
  /-- A text with a defect is no batch. -/
  refusesDefects : ∀ v bytes, v.IsText bytes → IsDefective v → decode? bytes = none
  /-- Behind a JSON text nothing but blanks may stand. -/
  refusesMore : ∀ v bytes rest, Json.Value.IsText v bytes → (∃ b ∈ rest, b ∉ Json.blanks) →
    decode? (bytes ++ rest) = none

/-- A batch is read from all of its texts, whatever their blanks, escapes,
forms of records and further members are, and from no other ones. -/
theorem Batch.readsRenderings : ReadsRenderings decode? where
  exactly _ _ := decode?_eq_some_iff
  encode b := decode?_eq_some_iff.mp b.decode?_encode
  refusesDefects v bytes hv hdefect := by
    -- Whatever would be read has a form, but the text has one value only.
    refine Option.eq_none_iff_forall_ne_some.mpr fun b hb => ?_
    obtain ⟨w, hform, hw⟩ := decode?_eq_some_iff.mp hb
    obtain rfl := hv.unique hw
    exact hform.not_isDefective hdefect
  refusesMore v bytes rest hv hrest := by
    refine Option.eq_none_iff_forall_ne_some.mpr fun b hb => ?_
    obtain ⟨w, hform, hw⟩ := decode?_eq_some_iff.mp hb
    obtain ⟨c, hc, hblank⟩ := hrest
    by_cases hnumber : ∃ n, v = .number n
    · -- What begins like a number is no batch.
      obtain ⟨n, rfl⟩ := (hv.isNumber_iff hw).mp hnumber
      obtain ⟨pairs, -, hrecord⟩ := hform
      cases hrecord
    · exact hblank (hv.blank_of_append hnumber hw c hc)

/-- An array stands for a batch, members come in another order and among
others, and surrogates spell a key. -/
example : Batch.decode? (Utf8.encodeChars
    "[[\x7b\"value\": [7], \"x\": [null, [-1e9]], \"k\\u0065y\": \"\\ud83d\\ude00\"\x7d, [\"a\", []]]] ".toList) =
      some ⟨[⟨"😀", [7]⟩, ⟨"a", []⟩]⟩ := by
  decide +kernel

end MapBench
