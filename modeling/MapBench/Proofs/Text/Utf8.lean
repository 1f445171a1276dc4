import MapBench.Text.Utf8

/-!
# `MapBench.Proofs.Text.Utf8`: texts come back from their bytes

Both readers give back the characters that were written, whatever
they are. The proof follows a character through its one to four
bytes.

* `decodeChars?_encodeChars`, `decode?_encode`: the strict reader.
* `decodeCharsLossy_encodeChars`: the forgiving one.
* `seen_feed`, `Seen.eq_ready`: bytes that can be read are those of
  characters, one after another.
-/

set_option autoImplicit false

namespace MapBench.Utf8

/-- A byte that begins a character of three bytes. A smaller second
byte would make the form too long, a greater one a surrogate. -/
theorem feed_three : ∀ a < 16, Reader.ready.feed (0xE0 + a).toUInt8 =
    some (none, .inside 1 (if a = 0 then 0xA0 else 0x80) (if a = 13 then 0x9F else 0xBF) a) := by
  decide

/-- A byte that begins a character of four bytes. For the first and the last
of the five the range of the next byte is smaller, as the others would be
too short or too large. -/
theorem feed_four : ∀ a < 5, Reader.ready.feed (0xF0 + a).toUInt8 =
    some (none, .inside 2 (if a = 0 then 0x90 else 0x80) (if a = 4 then 0x8F else 0xBF) a) := by
  decide

/-- A number that has room in a byte stays the same there. -/
theorem toNat_toUInt8 {n : Nat} (h : n < 256) : n.toUInt8.toNat = n := by
  rw [Nat.toUInt8_eq, UInt8.toNat_ofNat', Nat.mod_eq_of_lt h]

/-- A byte that begins a character of two bytes. Two lower ones are never
used, since what they begin would fit one byte. -/
theorem feed_two {a : Nat} (hlow : 2 ≤ a) (hhigh : a < 32) :
    Reader.ready.feed (0xC0 + a).toUInt8 = some (none, .inside 0 0x80 0xBF a) := by
  rw [Reader.feed, toNat_toUInt8 (by omega), Reader.first, if_neg (by omega), if_neg (by omega),
    if_pos (by omega), Nat.add_sub_cancel_left]

/-- A further byte of a character adds six bits. After it any byte from
inside a character will do. -/
theorem feed_inside (more value : Nat) {low high d : Nat} (hd : d < 64) (hlow : low ≤ 0x80 + d)
    (hhigh : 0x80 + d ≤ high) :
    (Reader.inside (more + 1) low high value).feed (0x80 + d).toUInt8 =
      some (none, .inside more 0x80 0xBF (value * 64 + d)) := by
  rw [Reader.feed, toNat_toUInt8 (by omega)]
  simp only [hlow, hhigh, and_self, if_true]
  rw [show (0x80 + d) % 64 = d by omega]

/-- The last byte completes the character, and the reader is ready for the
next one. -/
theorem feed_last (value : Nat) {low high d : Nat} (hd : d < 64) (hlow : low ≤ 0x80 + d)
    (hhigh : 0x80 + d ≤ high) :
    (Reader.inside 0 low high value).feed (0x80 + d).toUInt8 =
      some (some (Char.ofNat (value * 64 + d)), .ready) := by
  rw [Reader.feed, toNat_toUInt8 (by omega)]
  simp only [hlow, hhigh, and_self, if_true]
  rw [show (0x80 + d) % 64 = d by omega]

/-- The numbers of characters: no surrogates, and nothing past the
last character. -/
theorem toNat_bounds (c : Char) : c.toNat < 0xD800 ∨ 0xDFFF < c.toNat ∧ c.toNat < 0x110000 :=
  c.valid

/-- Reading goes on after a byte inside a character, with the same
characters read so far. -/
theorem foldlM_of_feed_none {r r' : Reader} {b : UInt8} (h : r.feed b = some (none, r'))
    (rev : List Char) (bytes : List UInt8) :
    (b :: bytes).foldlM decodeStep (r, rev) = bytes.foldlM decodeStep (r', rev) := by
  rw [List.foldlM_cons, decodeStep, h]
  rfl

/-- A byte that completes a character adds it to those read so far, which
are kept in reverse. -/
theorem foldlM_of_feed_some {r r' : Reader} {b : UInt8} {c : Char}
    (h : r.feed b = some (some c, r')) (rev : List Char) (bytes : List UInt8) :
    (b :: bytes).foldlM decodeStep (r, rev) = bytes.foldlM decodeStep (r', c :: rev) := by
  rw [List.foldlM_cons, decodeStep, h]
  rfl

/-- A character of one byte is read as itself. -/
theorem foldlM_one {n : Nat} (h : n < 0x80) (rev : List Char) :
    [n.toUInt8].foldlM decodeStep (.ready, rev) = some (.ready, Char.ofNat n :: rev) := by
  have hfeed : Reader.ready.feed n.toUInt8 = some (some (Char.ofNat n), .ready) := by
    rw [Reader.feed, toNat_toUInt8 (by omega), Reader.first, if_pos h]
  rw [foldlM_of_feed_some hfeed]
  rfl

/-- A character of two bytes is read back. The first byte has the upper
bits, and the second the lower six. -/
theorem foldlM_two {n : Nat} (hmin : 0x80 ≤ n) (hmax : n < 0x800) (rev : List Char) :
    [(0xC0 + n / 64).toUInt8, (0x80 + n % 64).toUInt8].foldlM decodeStep (.ready, rev) =
      some (.ready, Char.ofNat n :: rev) := by
  have hfirst := feed_two (show 2 ≤ n / 64 by omega) (by omega)
  have hlast := feed_last (n / 64) (show n % 64 < 64 by omega)
    (show 0x80 ≤ 0x80 + n % 64 by omega) (show 0x80 + n % 64 ≤ 0xBF by omega)
  rw [show n / 64 * 64 + n % 64 = n by omega] at hlast
  rw [foldlM_of_feed_none hfirst, foldlM_of_feed_some hlast]
  rfl

/-- A character of three bytes is read back. It isn't a surrogate: those
have no place in a text, and their bytes are refused. -/
theorem foldlM_three {n : Nat} (hmin : 0x800 ≤ n) (hmax : n < 0x10000)
    (hvalid : n < 0xD800 ∨ 0xDFFF < n) (rev : List Char) :
    [(0xE0 + n / 4096).toUInt8, (0x80 + n / 64 % 64).toUInt8, (0x80 + n % 64).toUInt8].foldlM
        decodeStep (.ready, rev) = some (.ready, Char.ofNat n :: rev) := by
  have hfirst := feed_three (n / 4096) (by omega)
  have hlow : (if n / 4096 = 0 then 0xA0 else 0x80) ≤ 0x80 + n / 64 % 64 := by split <;> omega
  have hhigh : 0x80 + n / 64 % 64 ≤ if n / 4096 = 13 then 0x9F else 0xBF := by split <;> omega
  have hsecond := feed_inside 0 (n / 4096) (show n / 64 % 64 < 64 by omega) hlow hhigh
  have hlast := feed_last (n / 4096 * 64 + n / 64 % 64) (show n % 64 < 64 by omega)
    (show 0x80 ≤ 0x80 + n % 64 by omega) (show 0x80 + n % 64 ≤ 0xBF by omega)
  rw [show (n / 4096 * 64 + n / 64 % 64) * 64 + n % 64 = n by omega] at hlast
  rw [foldlM_of_feed_none hfirst, foldlM_of_feed_none hsecond, foldlM_of_feed_some hlast]
  rfl

/-- A character of four bytes is read back. There is none above `0x10FFFF`,
and the range of the second byte sees to that. -/
theorem foldlM_four {n : Nat} (hmin : 0x10000 ≤ n) (hmax : n < 0x110000) (rev : List Char) :
    [(0xF0 + n / 262144).toUInt8, (0x80 + n / 4096 % 64).toUInt8, (0x80 + n / 64 % 64).toUInt8,
        (0x80 + n % 64).toUInt8].foldlM decodeStep (.ready, rev) =
      some (.ready, Char.ofNat n :: rev) := by
  have hfirst := feed_four (n / 262144) (by omega)
  -- The range of the second byte depends on the first, so both of its ends are checked by
  -- cases.
  have hlow : (if n / 262144 = 0 then 0x90 else 0x80) ≤ 0x80 + n / 4096 % 64 := by split <;> omega
  have hhigh : 0x80 + n / 4096 % 64 ≤ if n / 262144 = 4 then 0x8F else 0xBF := by split <;> omega
  have hsecond := feed_inside 1 (n / 262144) (show n / 4096 % 64 < 64 by omega) hlow hhigh
  have hthird := feed_inside 0 (n / 262144 * 64 + n / 4096 % 64)
    (show n / 64 % 64 < 64 by omega) (show 0x80 ≤ 0x80 + n / 64 % 64 by omega)
    (show 0x80 + n / 64 % 64 ≤ 0xBF by omega)
  have hlast := feed_last ((n / 262144 * 64 + n / 4096 % 64) * 64 + n / 64 % 64)
    (show n % 64 < 64 by omega) (show 0x80 ≤ 0x80 + n % 64 by omega)
    (show 0x80 + n % 64 ≤ 0xBF by omega)
  rw [show ((n / 262144 * 64 + n / 4096 % 64) * 64 + n / 64 % 64) * 64 + n % 64 = n by omega]
    at hlast
  rw [foldlM_of_feed_none hfirst, foldlM_of_feed_none hsecond, foldlM_of_feed_none hthird,
    foldlM_of_feed_some hlast]
  rfl

/-- The bytes of a character are read as that character, in each of the four
forms. -/
theorem foldlM_encodeChar (c : Char) (rev : List Char) :
    (encodeChar c).foldlM decodeStep (.ready, rev) = some (.ready, c :: rev) := by
  have hvalid := toNat_bounds c
  have hc : Char.ofNat c.toNat = c := Char.ofNat_toNat c
  unfold encodeChar
  generalize c.toNat = n at hvalid hc
  subst hc
  show (if n < 0x80 then _ else if n < 0x800 then _ else if n < 0x10000 then _ else _ :
    List UInt8).foldlM decodeStep _ = _
  -- The four forms, by how many bytes they take.
  split
  · next hone => exact foldlM_one hone rev
  · next hone =>
    split
    · next htwo => exact foldlM_two (by omega) htwo rev
    · next htwo =>
      split
      · next hthree => exact foldlM_three (by omega) hthree (by omega) rev
      · next hthree => exact foldlM_four (by omega) (by omega) rev

/-- Reading the bytes of characters adds those characters. By induction on
them, for any that were read before. -/
theorem foldlM_encodeChars (cs rev : List Char) :
    (encodeChars cs).foldlM decodeStep (.ready, rev) = some (.ready, cs.reverse ++ rev) := by
  induction cs generalizing rev with
  | nil => rfl
  | cons c cs ih =>
    change (encodeChar c ++ encodeChars cs).foldlM decodeStep (.ready, rev) = _
    rw [List.foldlM_append, foldlM_encodeChar]
    change (encodeChars cs).foldlM decodeStep (.ready, c :: rev) = _
    rw [ih, List.reverse_cons, List.append_assoc]
    rfl

/-- Characters come back from their bytes. So no two texts have the same
bytes. -/
theorem decodeChars?_encodeChars (cs : List Char) : decodeChars? (encodeChars cs) = some cs := by
  rw [decodeChars?, foldlM_encodeChars]
  simp

/-- A text comes back from its bytes: whatever is written as a file or sent
in a message can be read again. -/
theorem decode?_encode (s : String) : decode? (encode s) = some s := by
  rw [decode?, encode, decodeChars?_encodeChars, Option.map_some, String.ofList_toList]

/-- The bytes of a text are those of its characters, one after another, so a
text can be cut wherever a character ends. -/
theorem encodeChars_append (as bs : List Char) :
    encodeChars (as ++ bs) = encodeChars as ++ encodeChars bs :=
  List.flatMap_append

/-- Where the strict reader goes on, the forgiving one does the same. It
forgives only what the other refuses. -/
theorem foldl_lossyStep {state state' : Reader × List Char} {bytes : List UInt8}
    (h : bytes.foldlM decodeStep state = some state') : bytes.foldl lossyStep state = state' := by
  induction bytes generalizing state with
  | nil => exact Option.some.inj h
  | cons b bytes ih =>
    rw [List.foldlM_cons] at h
    cases hstep : decodeStep state b with
    | none =>
      rw [hstep] at h
      cases h
    | some next =>
      rw [hstep] at h
      have hlossy : lossyStep state b = next := by rw [lossyStep, hstep]
      rw [List.foldl_cons, hlossy]
      exact ih h

/-- The forgiving reader gives back characters from their bytes, too:
nothing in them has to be forgiven. -/
theorem decodeCharsLossy_encodeChars (cs : List Char) : decodeCharsLossy (encodeChars cs) = cs := by
  rw [decodeCharsLossy, foldl_lossyStep (foldlM_encodeChars cs [])]
  simp

/-! ### Bytes that were read -/

/-- The character of a number has that number, if it is one that characters
have. -/
theorem toNat_ofNat {n : Nat} (h : n < 0xD800 ∨ 0xDFFF < n ∧ n < 0x110000) :
    (Char.ofNat n).toNat = n := by
  have hvalid : n.isValidChar := h
  unfold Char.ofNat
  rw [dif_pos hvalid]
  rfl

/-- A byte is known by its number. -/
theorem toUInt8_toNat {n : Nat} {b : UInt8} (h : n = b.toNat) : n.toUInt8 = b := by
  subst h
  simp

/-- Whatever a reader inside a character may still be given, together
with the bytes that it has seen it is a character. -/
def Completes : Nat → Nat → Nat → Nat → List UInt8 → Prop
  | 0, low, high, value, seen => 0x80 ≤ low ∧ high ≤ 0xBF ∧ ∀ b : UInt8, low ≤ b.toNat → b.toNat ≤ high →
      seen ++ [b] = encodeChar (Char.ofNat (value * 64 + b.toNat % 64))
  | more + 1, low, high, value, seen => 0x80 ≤ low ∧ high ≤ 0xBF ∧ ∀ b : UInt8, low ≤ b.toNat →
      b.toNat ≤ high → Completes more 0x80 0xBF (value * 64 + b.toNat % 64) (seen ++ [b])

/-- A reader that has seen these bytes of a character: none between
characters, the first ones inside one. -/
def Seen : Reader → List UInt8 → Prop
  | .ready, seen => seen = []
  | .inside more low high value, seen => Completes more low high value seen

/-- The first byte of two: any further byte makes it a character, and these
are its bytes. -/
theorem completes_two {a : UInt8} (hlow : 0xC2 ≤ a.toNat) (hhigh : a.toNat < 0xE0) :
    Completes 0 0x80 0xBF (a.toNat - 0xC0) [a] := by
  refine ⟨Nat.le_refl _, Nat.le_refl _, fun b hb hb' => ?_⟩
  have hnat := toNat_ofNat (n := (a.toNat - 0xC0) * 64 + b.toNat % 64) (by omega)
  unfold encodeChar
  rw [hnat]
  dsimp only
  rw [if_neg (by omega), if_pos (by omega), toUInt8_toNat (b := a) (by omega),
    toUInt8_toNat (b := b) (by omega)]
  rfl

/-- The first byte of three. Which second bytes it takes depends on it, so
that no character is written longer than it has to be and none is a
surrogate. -/
theorem completes_three {a : UInt8} {low high : Nat} (ha : 0xE0 ≤ a.toNat) (ha' : a.toNat < 0xF0)
    (hlow : 0x80 ≤ low) (hhigh : high ≤ 0xBF) (hmin : a.toNat = 0xE0 → 0xA0 ≤ low)
    (hvalid : a.toNat = 0xED → high ≤ 0x9F) : Completes 1 low high (a.toNat - 0xE0) [a] := by
  refine ⟨hlow, hhigh, fun b hb hb' => ⟨Nat.le_refl _, Nat.le_refl _, fun c hc hc' => ?_⟩⟩
  have hnat := toNat_ofNat (n := ((a.toNat - 0xE0) * 64 + b.toNat % 64) * 64 + c.toNat % 64) (by omega)
  unfold encodeChar
  rw [hnat]
  dsimp only
  rw [if_neg (by omega), if_neg (by omega), if_pos (by omega), toUInt8_toNat (b := a) (by omega),
    toUInt8_toNat (b := b) (by omega), toUInt8_toNat (b := c) (by omega)]
  rfl

/-- The first byte of four. Here, too, the range of the second byte rules
out characters that would be shorter, and numbers that no character has. -/
theorem completes_four {a : UInt8} {low high : Nat} (ha : 0xF0 ≤ a.toNat) (ha' : a.toNat ≤ 0xF4)
    (hlow : 0x80 ≤ low) (hhigh : high ≤ 0xBF) (hmin : a.toNat = 0xF0 → 0x90 ≤ low)
    (hmax : a.toNat = 0xF4 → high ≤ 0x8F) : Completes 2 low high (a.toNat - 0xF0) [a] := by
  refine ⟨hlow, hhigh, fun b hb hb' => ⟨Nat.le_refl _, Nat.le_refl _, fun c hc hc' =>
    ⟨Nat.le_refl _, Nat.le_refl _, fun d hd hd' => ?_⟩⟩⟩
  have hnat := toNat_ofNat
    (n := (((a.toNat - 0xF0) * 64 + b.toNat % 64) * 64 + c.toNat % 64) * 64 + d.toNat % 64) (by omega)
  unfold encodeChar
  rw [hnat]
  dsimp only
  rw [if_neg (by omega), if_neg (by omega), if_neg (by omega), toUInt8_toNat (b := a) (by omega),
    toUInt8_toNat (b := b) (by omega), toUInt8_toNat (b := c) (by omega),
    toUInt8_toNat (b := d) (by omega)]
  rfl

/-- The first byte of a character is a whole one, or the beginning of
one. -/
theorem seen_first {b : UInt8} {o : Option Char} {r : Reader} (h : Reader.first b.toNat = some (o, r)) :
    o.elim (Seen r [b]) fun c => r = .ready ∧ [b] = encodeChar c := by
  unfold Reader.first at h
  -- Each range of first bytes has its own case: one byte, none at all, two bytes, and the
  -- special ones among three and four.
  split at h
  · next hascii =>
    cases h
    have hnat := toNat_ofNat (n := b.toNat) (by omega)
    refine ⟨rfl, ?_⟩
    unfold encodeChar
    rw [hnat]
    dsimp only
    rw [if_pos hascii, toUInt8_toNat rfl]
  split at h
  · cases h
  split at h
  · cases h
    exact completes_two (by omega) (by omega)
  split at h
  · next he0 =>
    cases h
    have hthree : Completes 1 0xA0 0xBF (b.toNat - 0xE0) [b] :=
      completes_three (by omega) (by omega) (by omega) (by omega) (by omega) (by omega)
    rwa [he0] at hthree
  split at h
  · next hed =>
    cases h
    have hthree : Completes 1 0x80 0x9F (b.toNat - 0xE0) [b] :=
      completes_three (by omega) (by omega) (by omega) (by omega) (by omega) (by omega)
    rwa [hed] at hthree
  split at h
  · cases h
    exact completes_three (by omega) (by omega) (by omega) (by omega) (by omega) (by omega)
  split at h
  · next hf0 =>
    cases h
    have hfour : Completes 2 0x90 0xBF (b.toNat - 0xF0) [b] :=
      completes_four (by omega) (by omega) (by omega) (by omega) (by omega) (by omega)
    rwa [hf0] at hfour
  split at h
  · cases h
    exact completes_four (by omega) (by omega) (by omega) (by omega) (by omega) (by omega)
  split at h
  · next hf4 =>
    cases h
    have hfour : Completes 2 0x80 0x8F (b.toNat - 0xF0) [b] :=
      completes_four (by omega) (by omega) (by omega) (by omega) (by omega) (by omega)
    rwa [hf4] at hfour
  · cases h

/-- Any byte that can be read goes on with the character at hand, or
completes it. -/
theorem seen_feed {r r' : Reader} {seen : List UInt8} {b : UInt8} {o : Option Char} (hseen : Seen r seen)
    (h : r.feed b = some (o, r')) :
    o.elim (Seen r' (seen ++ [b])) fun c => r' = .ready ∧ seen ++ [b] = encodeChar c := by
  match r with
  | .ready =>
    obtain rfl : seen = [] := hseen
    exact seen_first h
  | .inside more low high value =>
    unfold Reader.feed at h
    dsimp only at h
    split at h
    · next hrange =>
      -- The last byte gives the character, and any other leaves one byte less to come.
      cases more with
      | zero =>
        cases h
        obtain ⟨-, -, hlast⟩ := hseen
        exact ⟨rfl, hlast b hrange.1 hrange.2⟩
      | succ more =>
        cases h
        obtain ⟨-, -, hmore⟩ := hseen
        exact hmore b hrange.1 hrange.2
    · cases h

/-- No character begins with a byte from inside one. So where a character
begins can be told from its first byte alone. -/
theorem exists_encodeChar_eq_cons (c : Char) :
    ∃ b bytes, encodeChar c = b :: bytes ∧ (b.toNat < 0x80 ∨ 0xBF < b.toNat) := by
  have hvalid := toNat_bounds c
  unfold encodeChar
  generalize c.toNat = n at hvalid
  dsimp only
  split
  · refine ⟨_, _, rfl, ?_⟩
    rw [toNat_toUInt8 (by omega)]
    omega
  split
  · refine ⟨_, _, rfl, ?_⟩
    rw [toNat_toUInt8 (by omega)]
    omega
  split
  · refine ⟨_, _, rfl, ?_⟩
    rw [toNat_toUInt8 (by omega)]
    omega
  · refine ⟨_, _, rfl, ?_⟩
    rw [toNat_toUInt8 (by omega)]
    omega

/-- So none can begin before the one at hand is complete. Bytes that can be
read are those of characters one after another, and not of some inside
others. -/
theorem Seen.eq_ready {r : Reader} {seen bytes : List UInt8} {c : Char} {rev : List Char}
    {state : Reader × List Char} (hseen : Seen r seen)
    (h : (encodeChar c ++ bytes).foldlM decodeStep (r, rev) = some state) : r = .ready := by
  obtain ⟨b, more, hc, hb⟩ := exists_encodeChar_eq_cons c
  rw [hc, List.cons_append, List.foldlM_cons] at h
  match r with
  | .ready => rfl
  | .inside due low high value =>
    have hrange : 0x80 ≤ low ∧ high ≤ 0xBF := by
      cases due <;> exact ⟨hseen.1, hseen.2.1⟩
    have hfeed : (Reader.inside due low high value).feed b = none := by
      unfold Reader.feed
      dsimp only
      rw [if_neg (by omega)]
    rw [decodeStep, hfeed] at h
    cases h

end MapBench.Utf8
