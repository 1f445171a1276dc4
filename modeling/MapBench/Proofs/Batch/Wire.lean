import MapBench.Api.Count
import MapBench.Batch.Wire
import MapBench.Proofs.Json.Building

/-!
# `MapBench.Proofs.Batch.Wire`: batches and counts come back from JSON

Whatever a batch holds, its JSON reads back as the same batch: pairs
keep their order, keys may be any text, and values any bytes. A count
comes back if it is a word.

* `Batch.decode?_encode`
* `Count.decode?_encode`
-/

set_option autoImplicit false

namespace MapBench

open Json (items digitBytes Reads ReadsWhole)

namespace Json.Value

/-- A number comes back from its digits, as long as it isn't above the limit
of the reader. -/
theorem natural?_digitBytes {limit n : Nat} (h : n ≤ limit) :
    natural? limit (.number (digitBytes n)) = some n := by
  have hdigits : ∀ c ∈ Decimal.digits n, c.isDigit := fun c hc => Decimal.digits_isDigit hc
  have hall : (digitBytes n).all isDigit = true := by
    rw [digitBytes, encodeChars_digits hdigits, List.all_map, List.all_eq_true]
    exact fun c hc => isDigit_toUInt8 (hdigits c hc)
  have hchars : (digitBytes n).map (fun b => Char.ofNat b.toNat) = Decimal.digits n := by
    rw [digitBytes, encodeChars_digits hdigits, List.map_map]
    conv => rhs; rw [← List.map_id (Decimal.digits n)]
    refine List.map_congr_left fun c hc => ?_
    have hc := Char.isDigit_iff_toNat.mp (hdigits c hc)
    have h₉ : '9'.toNat = 57 := rfl
    rw [Function.comp_apply, Utf8.toNat_toUInt8 (by omega), Char.ofNat_toNat]
    rfl
  rw [natural?, if_pos hall, hchars, Decimal.value_digits, if_pos h]

/-- The digits of bytes are read as their numbers, which are never above
255. -/
theorem mapM_natural?_bytes (bytes : List UInt8) :
    (bytes.map fun b => number (digitBytes b.toNat)).mapM (natural? 255) = some (bytes.map UInt8.toNat) := by
  induction bytes with
  | nil => rfl
  | cons b bytes ih =>
    have hb : b.toNat ≤ 255 := Nat.le_of_lt_succ b.toNat_lt
    rw [List.map_cons, List.mapM_cons, natural?_digitBytes hb, ih]
    rfl

end Json.Value

/-- The names of the fields in use are written as they are, since they have
no character that would be escaped. -/
theorem escapeChar_fieldName {fields : List (String × List Char × Json.Value)}
    (h : ∀ f ∈ fields, f.1 ∈ ["key", "value", "pairs", "count"]) :
    ∀ f ∈ fields, ∀ c ∈ f.1.toList, Json.escapeChar c = [c] := by
  have hall : ["key", "value", "pairs", "count"].all (fun name =>
      name.toList.all fun c => Json.escapeChar c == [c]) = true := by decide
  intro f hf c hc
  exact eq_of_beq (List.all_eq_true.mp (List.all_eq_true.mp hall f.1 (h f hf)) c hc)

namespace Pair

/-- The JSON value of a pair, which is what its text is read as. -/
def toJson (p : Pair) : Json.Value :=
  .record [("key", .string (items p.key.toList)),
    ("value", .array (p.value.map fun b => .number (digitBytes b.toNat)))]

/-- The text that is sent for a pair is one of that value. -/
theorem readsWhole_json (p : Pair) : ReadsWhole p.json p.toJson := by
  have hkey : Reads (Json.quote p.key.toList) (.string (items p.key.toList)) :=
    (Json.readsWhole_quote p.key.toList).reads
  have hvalue : Reads (valueJson p.value)
      (.array (p.value.map fun b => .number (digitBytes b.toNat))) :=
    (Json.readsWhole_arrayText fun b _ => Json.reads_digits b.toNat).reads
  have hfields : ∀ f ∈ [("key", Json.quote p.key.toList, .string (items p.key.toList)),
      ("value", valueJson p.value, .array (p.value.map fun b => .number (digitBytes b.toNat)))],
      Reads f.2.1 f.2.2 := by
    intro f hf
    simp only [List.mem_cons, List.not_mem_nil, or_false] at hf
    rcases hf with rfl | rfl
    · exact hkey
    · exact hvalue
  have hreads := Json.readsWhole_record (List.cons_ne_nil _ _) (escapeChar_fieldName (by simp)) hfields
  exact hreads

/-- A pair comes back from its JSON value. Its key may be any text and its
value any bytes. -/
theorem ofJson?_toJson (p : Pair) : ofJson? p.toJson = some p := by
  have hbytes : (p.value.map UInt8.toNat).map Nat.toUInt8 = p.value := by
    simp [List.map_map, Function.comp_def]
  have hfields : p.toJson.fields? ["key", "value"] = some [.string (items p.key.toList),
      .array (p.value.map fun b => .number (digitBytes b.toNat))] := by
    rw [toJson, Json.Value.fields?_record]
    rfl
  rw [ofJson?, hfields]
  simp only [Option.bind_eq_bind, Option.bind_some, Json.Value.text?, Json.itemsText?_items,
    Json.Value.elements?, Json.Value.mapM_natural?_bytes, hbytes, String.ofList_toList]
  rfl

end Pair

namespace Batch

/-- The JSON value of a batch: a record with an array of its pairs. -/
def toJson (b : Batch) : Json.Value :=
  .record [("pairs", .array (b.pairs.map Pair.toJson))]

/-- The text that is sent for a batch is one of that value. -/
theorem readsWhole_json (b : Batch) : ReadsWhole b.json b.toJson := by
  have hpairs : Reads (Json.arrayText (b.pairs.map Pair.json)) (.array (b.pairs.map Pair.toJson)) :=
    (Json.readsWhole_arrayText fun p _ => p.readsWhole_json.reads).reads
  have hfields : ∀ f ∈ [("pairs", Json.arrayText (b.pairs.map Pair.json),
      .array (b.pairs.map Pair.toJson))], Reads f.2.1 f.2.2 := by
    intro f hf
    obtain rfl := List.mem_singleton.mp hf
    exact hpairs
  have hreads := Json.readsWhole_record (List.cons_ne_nil _ _) (escapeChar_fieldName (by simp)) hfields
  exact hreads

/-- A batch comes back from its JSON value, with its pairs in their order
and with keys that it may have twice. -/
theorem ofJson?_toJson (b : Batch) : ofJson? b.toJson = some b := by
  have hpairs : (b.pairs.map Pair.toJson).mapM Pair.ofJson? = some b.pairs := by
    induction b.pairs with
    | nil => rfl
    | cons p ps ih =>
      rw [List.map_cons, List.mapM_cons, Pair.ofJson?_toJson, ih]
      rfl
  have hfields : b.toJson.fields? ["pairs"] = some [.array (b.pairs.map Pair.toJson)] := by
    rw [toJson, Json.Value.fields?_record]
    rfl
  rw [ofJson?, hfields]
  simp only [Option.bind_eq_bind, Option.bind_some, Json.Value.elements?, hpairs]
  rfl

/-- A batch comes back from its JSON, whatever it holds. So a server writes
just what a session was given. -/
theorem decode?_encode (b : Batch) : decode? b.encode = some b := by
  rw [decode?, encode, b.readsWhole_json.ofBytes?, Option.bind_some, ofJson?_toJson]

end Batch

namespace Count

/-- The JSON value of a count. -/
def toJson (n : Nat) : Json.Value :=
  .record [("count", .number (digitBytes n))]

/-- The text that is sent for a count is one of that value. -/
theorem readsWhole_json (n : Nat) : ReadsWhole (json n) (toJson n) := by
  have hfields : ∀ f ∈ [("count", Decimal.digits n, .number (digitBytes n))],
      Reads f.2.1 f.2.2 := by
    intro f hf
    obtain rfl := List.mem_singleton.mp hf
    exact Json.reads_digits n
  have hreads := Json.readsWhole_record (List.cons_ne_nil _ _) (escapeChar_fieldName (by simp)) hfields
  exact hreads

/-- A count that is a word comes back from its JSON. A larger one would be
refused by the reader. -/
theorem decode?_encode {n : Nat} (h : n ≤ maxWord) : decode? (encode n) = some n := by
  have hfields : (toJson n).fields? ["count"] = some [.number (digitBytes n)] := by
    rw [toJson, Json.Value.fields?_record]
    rfl
  rw [decode?, encode, (readsWhole_json n).ofBytes?]
  simp only [Option.bind_eq_bind, Option.bind_some, hfields]
  exact Json.Value.natural?_digitBytes h

end Count

end MapBench
