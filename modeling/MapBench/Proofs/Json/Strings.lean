import MapBench.Json.Text
import MapBench.Proofs.Text.Utf8

/-!
# `MapBench.Proofs.Json.Strings`: all the ways to write a text

A JSON string may write each character as itself, with an escape of its
number, or with escapes of two surrogates. Reading undoes every mixture
of these, and accepts nothing else: no surrogate by itself, and no byte
that belongs to no character.

* `IsSpelling`: the items that spell characters.
* `itemsText?_eq_some_iff`: what is read are exactly the spellings.
-/

set_option autoImplicit false

namespace MapBench.Json

open Utf8 (encodeChar encodeChars decodeStep Seen)

/-- The items that can stand for a character. A writer may choose among them
anew for each character. -/
inductive IsCharSpelling (c : Char) : List Item → Prop
  /-- Its bytes. -/
  | bytes : IsCharSpelling c ((encodeChar c).map .byte)
  /-- Its number, if that is a 16-bit unit. -/
  | unit (hc : c.toNat < 0x10000) : IsCharSpelling c [.unit c.toNat]
  /-- Two surrogates, each with ten bits of what its number exceeds these
  units by. -/
  | surrogates {high low : Nat} (hhigh : 0xD800 ≤ high ∧ high ≤ 0xDBFF)
      (hlow : 0xDC00 ≤ low ∧ low ≤ 0xDFFF)
      (hc : c.toNat = 0x10000 + (high - 0xD800) * 1024 + (low - 0xDC00)) :
      IsCharSpelling c [.unit high, .unit low]

/-- The items that can stand for a text, character by character. -/
inductive IsSpelling : List Char → List Item → Prop
  | nil : IsSpelling [] []
  | cons {c : Char} {cs : List Char} {first rest : List Item} (char : IsCharSpelling c first)
      (more : IsSpelling cs rest) : IsSpelling (c :: cs) (first ++ rest)

/-- Escapes give units of 16 bits. No other ones can be written with four
digits. -/
def InUnits (items : List Item) : Prop :=
  ∀ u, .unit u ∈ items → u < 0x10000

/-- Bytes that stand for themselves are read as they are. -/
theorem itemBytes_map_byte (bytes rev : List UInt8) (rest : List Item) :
    itemBytes rev (bytes.map .byte ++ rest) = itemBytes (bytes.reverse ++ rev) rest := by
  induction bytes generalizing rev with
  | nil => rfl
  | cons b bytes ih =>
    rw [List.map_cons, List.cons_append, itemBytes, ih, List.reverse_cons, List.append_assoc]
    rfl

/-- Whatever spells a character is read as its bytes, and reading goes on
behind them. -/
theorem IsCharSpelling.itemBytes {c : Char} {first : List Item} (h : IsCharSpelling c first)
    (rev : List UInt8) (rest : List Item) :
    itemBytes rev (first ++ rest) = itemBytes ((encodeChar c).reverse ++ rev) rest := by
  have hvalid := Utf8.toNat_bounds c
  cases h with
  | bytes => exact itemBytes_map_byte _ rev rest
  | unit hc =>
    rw [List.singleton_append, Json.itemBytes.eq_def]
    simp only
    rw [if_neg (by omega), if_neg (by omega), Char.ofNat_toNat]
  | @surrogates high low hhigh hlow hc =>
    rw [List.cons_append, List.singleton_append, Json.itemBytes.eq_def]
    simp only
    rw [if_neg (by omega), if_pos hhigh, if_pos hlow, ← hc, Char.ofNat_toNat]

/-- A spelling is read as the bytes of its text, by induction on its
characters. -/
theorem IsSpelling.itemBytes {cs : List Char} {items : List Item} (h : IsSpelling cs items)
    (rev : List UInt8) : itemBytes rev items = some ((encodeChars cs).reverse ++ rev) := by
  induction h generalizing rev with
  | nil => rfl
  | @cons c cs first rest char more ih =>
    rw [char.itemBytes, ih]
    simp [encodeChars]

/-- And those as the text, since they are the bytes of characters. -/
theorem IsSpelling.itemsText? {cs : List Char} {items : List Item} (h : IsSpelling cs items) :
    itemsText? items = some (String.ofList cs) := by
  rw [Json.itemsText?, h.itemBytes]
  simp [Utf8.decode?, Utf8.decodeChars?_encodeChars]

/-- Bytes that are read to their end, from a reader inside a character or
between characters, are read as what these items spell. -/
def SpelledBy (items : List Item) (bytes : List UInt8) : Prop :=
  ∀ r seen before after, Seen r seen → bytes.foldlM decodeStep (r, before) = some (.ready, after) →
    ∃ cs, after = cs.reverse ++ before ∧ IsSpelling cs (seen.map .byte ++ items)

/-- No items spell no bytes. -/
theorem spelledBy_nil : SpelledBy [] [] := by
  intro r seen before after hseen hread
  cases hread
  obtain rfl : seen = [] := hseen
  exact ⟨[], rfl, .nil⟩

/-- The bytes of a character come one by one. They are kept until it is
complete. -/
theorem SpelledBy.byte {items : List Item} {bytes : List UInt8} (h : SpelledBy items bytes) (b : UInt8) :
    SpelledBy (.byte b :: items) (b :: bytes) := by
  intro r seen before after hseen hread
  rw [List.foldlM_cons] at hread
  rcases hfeed : r.feed b with _ | ⟨_ | c, r'⟩
  · rw [decodeStep, hfeed] at hread
    cases hread
  · rw [decodeStep, hfeed] at hread
    obtain ⟨cs, hafter, hcs⟩ := h _ _ _ _ (Utf8.seen_feed hseen hfeed) hread
    refine ⟨cs, hafter, ?_⟩
    simpa using hcs
  · rw [decodeStep, hfeed] at hread
    obtain ⟨rfl, hc⟩ := Utf8.seen_feed hseen hfeed
    obtain ⟨cs, rfl, hcs⟩ := h .ready [] _ _ rfl hread
    refine ⟨c :: cs, by simp, ?_⟩
    have hspelled := IsSpelling.cons (.bytes (c := c)) hcs
    rw [← hc] at hspelled
    simpa using hspelled

/-- An escape gives a character as a whole, so none can be open before
it. -/
theorem SpelledBy.escape {items first : List Item} {bytes : List UInt8} {c : Char}
    (h : SpelledBy items bytes) (hc : IsCharSpelling c first) :
    SpelledBy (first ++ items) (encodeChar c ++ bytes) := by
  intro r seen before after hseen hread
  obtain rfl := hseen.eq_ready hread
  obtain rfl : seen = [] := hseen
  rw [List.foldlM_append, Utf8.foldlM_encodeChar] at hread
  obtain ⟨cs, rfl, hcs⟩ := h .ready [] _ _ rfl hread
  refine ⟨c :: cs, by simp, ?_⟩
  show IsSpelling (c :: cs) (first ++ items)
  exact .cons hc hcs

/-- What items are read as, they spell. The cases are those of the reader: a
byte, two surrogates, or another unit. -/
theorem spelledBy_of_itemBytes {rev out : List UInt8} {items : List Item} (hunits : InUnits items)
    (h : itemBytes rev items = some out) : ∃ bytes, out = bytes.reverse ++ rev ∧ SpelledBy items bytes := by
  induction rev, items using Json.itemBytes.induct with
  | case1 rev =>
    cases h
    exact ⟨[], rfl, spelledBy_nil⟩
  | case2 rev b items ih =>
    obtain ⟨bytes, rfl, hbytes⟩ := ih (fun u hu => hunits u (List.mem_cons_of_mem _ hu)) h
    exact ⟨b :: bytes, by simp, hbytes.byte b⟩
  | case3 rev high items hlow =>
    rw [Json.itemBytes.eq_def] at h
    simp only at h
    rw [if_pos hlow] at h
    cases h
  | case4 rev high hnot hhigh low items hlow c ih =>
    rw [Json.itemBytes.eq_def] at h
    simp only at h
    rw [if_neg hnot, if_pos hhigh, if_pos hlow] at h
    obtain ⟨bytes, rfl, hbytes⟩ := ih (fun u hu => hunits u (by simp [hu])) h
    refine ⟨encodeChar c ++ bytes, by simp, ?_⟩
    exact hbytes.escape (.surrogates hhigh hlow (Utf8.toNat_ofNat (by omega)))
  | case5 rev high hnot hhigh low items hlow =>
    rw [Json.itemBytes.eq_def] at h
    simp only at h
    rw [if_neg hnot, if_pos hhigh, if_neg hlow] at h
    cases h
  | case6 rev high items hnot hhigh hsecond =>
    -- A first surrogate without a second one.
    rw [Json.itemBytes.eq_def] at h
    simp only at h
    rw [if_neg hnot, if_pos hhigh] at h
    cases h
  | case7 rev high items hnot hnot' ih =>
    rw [Json.itemBytes.eq_def] at h
    simp only at h
    rw [if_neg hnot, if_neg hnot'] at h
    obtain ⟨bytes, rfl, hbytes⟩ := ih (fun u hu => hunits u (List.mem_cons_of_mem _ hu)) h
    refine ⟨encodeChar (Char.ofNat high) ++ bytes, by simp, ?_⟩
    have hsmall := hunits high List.mem_cons_self
    have hnat : (Char.ofNat high).toNat = high := Utf8.toNat_ofNat (by omega)
    have hc : IsCharSpelling (Char.ofNat high) [.unit (Char.ofNat high).toNat] := .unit (by omega)
    rw [hnat] at hc
    exact hbytes.escape hc

/-- What a string is read as are exactly the texts that it spells. -/
theorem itemsText?_eq_some_iff {items : List Item} {s : String} (hunits : InUnits items) :
    itemsText? items = some s ↔ IsSpelling s.toList items := by
  constructor
  · intro h
    rw [itemsText?, Option.bind_eq_some_iff] at h
    obtain ⟨out, hout, hs⟩ := h
    obtain ⟨bytes, rfl, hbytes⟩ := spelledBy_of_itemBytes hunits hout
    rw [List.append_nil, List.reverse_reverse, Utf8.decode?, Utf8.decodeChars?] at hs
    split at hs
    · next rev hread =>
      cases hs
      obtain ⟨cs, hcs, hspelled⟩ := hbytes .ready [] [] rev rfl hread
      rw [List.append_nil] at hcs
      rw [hcs, List.reverse_reverse, String.toList_ofList]
      exact hspelled
    · cases hs
  · intro h
    rw [h.itemsText?, String.ofList_toList]

end MapBench.Json
