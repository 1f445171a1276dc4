import MapBench.Proofs.Json.Strings
import MapBench.Proofs.Json.Tokens
import MapBench.Proofs.Number.Decimal

/-!
# `MapBench.Proofs.Json.Lexing`: written JSON as tokens

What is written as JSON is read back as tokens, piece by piece. Most
pieces end with a mark of their own. A number doesn't: it is only
finished by the byte behind it, so it is read together with that byte.

* `Spells`, `SpellsWhole`: a text is read as tokens, with a byte behind
  it that ends numbers, or by itself.
* `spellsWhole_quote`, `isSpelling_items`, `itemsText?_items`: strings.
* `spells_digits`: numbers.
* `spellsWhole_arrayText`, `spellsWhole_objectText`: arrays and
  objects of pieces.
-/

set_option autoImplicit false

namespace MapBench.Json

open Utf8 (encodeChar encodeChars)

/-- The tokens of pieces, with a comma between any two of them. -/
def separated (pieces : List (List Token)) : List Token :=
  List.intercalate [.comma] pieces

/-- A text is read as tokens, if a byte stands behind it that ends
numbers. -/
def Spells (text : List Char) (tokens : List Token) : Prop :=
  ∀ rev b rest, b ∈ numberEnds →
    (encodeChars text ++ b :: rest).foldlM Lexer.step ⟨.between, rev⟩ =
      (b :: rest).foldlM Lexer.step ⟨.between, tokens.reverse ++ rev⟩

/-- A text is read as tokens, whatever stands behind it. It doesn't matter
what was read before, which is why tokens can be put in front. -/
def SpellsWhole (text : List Char) (tokens : List Token) : Prop :=
  ∀ rev, (encodeChars text).foldlM Lexer.step ⟨.between, rev⟩ =
    some ⟨.between, tokens.reverse ++ rev⟩

/-- What is read whatever stands behind it is also read in front of a byte
that ends numbers. -/
theorem SpellsWhole.spells {text : List Char} {tokens : List Token} (h : SpellsWhole text tokens) :
    Spells text tokens := by
  intro rev b rest _
  rw [List.foldlM_append, h rev]
  rfl

/-- Texts that end by themselves can be put one behind the other. -/
theorem SpellsWhole.append {as bs : List Char} {ts us : List Token} (ha : SpellsWhole as ts)
    (hb : SpellsWhole bs us) : SpellsWhole (as ++ bs) (ts ++ us) := by
  intro rev
  rw [Utf8.encodeChars_append, List.foldlM_append, ha rev]
  refine (hb (ts.reverse ++ rev)).trans ?_
  rw [List.reverse_append, List.append_assoc]

/-- The last of them need not end by itself. What ends it may be the end of
the text. -/
theorem SpellsWhole.append_spells {as bs : List Char} {ts us : List Token} (ha : SpellsWhole as ts)
    (hb : Spells bs us) : Spells (as ++ bs) (ts ++ us) := by
  intro rev b rest hends
  rw [Utf8.encodeChars_append, List.append_assoc, List.foldlM_append, ha rev]
  refine (hb (ts.reverse ++ rev) b rest hends).trans ?_
  rw [List.reverse_append, List.append_assoc]

/-- A character of one byte comes first among the bytes of its text. -/
theorem encodeChars_cons_ascii {c : Char} (hc : c.toNat < 128) (cs : List Char) :
    encodeChars (c :: cs) = c.toNat.toUInt8 :: encodeChars cs := by
  simp [encodeChars, encodeChar, hc]

/-- A piece and a mark right behind it. The mark ends a number if the piece
is one, and together they end by themselves. -/
theorem Spells.append_mark {as bs : List Char} {c : Char} {ts us : List Token} (ha : Spells as ts)
    (hc : c.toNat < 128) (hends : c.toNat.toUInt8 ∈ numberEnds) (hb : SpellsWhole (c :: bs) us) :
    SpellsWhole (as ++ c :: bs) (ts ++ us) := by
  intro rev
  have hmark := hb (ts.reverse ++ rev)
  rw [encodeChars_cons_ascii hc] at hmark
  rw [Utf8.encodeChars_append, encodeChars_cons_ascii hc, ha rev _ _ hends, hmark,
    List.reverse_append, List.append_assoc]

/-- A piece and a mark right behind it that begins a further piece, which
may be a number. -/
theorem Spells.append_marked {as bs : List Char} {c : Char} {ts us : List Token} (ha : Spells as ts)
    (hc : c.toNat < 128) (hends : c.toNat.toUInt8 ∈ numberEnds) (hb : Spells (c :: bs) us) :
    Spells (as ++ c :: bs) (ts ++ us) := by
  intro rev b rest hb'
  have hmark := hb (ts.reverse ++ rev) b rest hb'
  rw [encodeChars_cons_ascii hc] at hmark
  rw [Utf8.encodeChars_append, encodeChars_cons_ascii hc, List.append_assoc, List.cons_append,
    ha rev _ _ hends, ← List.cons_append, hmark, List.reverse_append, List.append_assoc]

/-- A bracket is a token of its own, as are the other five marks. -/
theorem spellsWhole_openBracket : SpellsWhole ['['] [.openBracket] :=
  fun _ => rfl

/-- The bracket at the end of an array ends by itself, like all marks. -/
theorem spellsWhole_closeBracket : SpellsWhole [']'] [.closeBracket] :=
  fun _ => rfl

/-- So does the brace at the beginning of an object. -/
theorem spellsWhole_openBrace : SpellsWhole ['\x7b'] [.openBrace] :=
  fun _ => rfl

/-- So does the brace at its end. -/
theorem spellsWhole_closeBrace : SpellsWhole ['\x7d'] [.closeBrace] :=
  fun _ => rfl

/-- So does the colon behind a name. -/
theorem spellsWhole_colon : SpellsWhole [':'] [.colon] :=
  fun _ => rfl

/-- And so does the comma between elements or members. -/
theorem spellsWhole_comma : SpellsWhole [','] [.comma] :=
  fun _ => rfl

/-! ### Arrays and objects of pieces -/

section

variable {α : Type} {text : α → List Char} {tokens : α → List Token}

/-- Pieces with commas between them. The last one is still waiting for
what stands behind it. -/
theorem spells_separated {a : α} {as : List α} (h : ∀ x ∈ a :: as, Spells (text x) (tokens x)) :
    Spells (List.intercalate [','] ((a :: as).map text)) (separated ((a :: as).map tokens)) := by
  induction as generalizing a with
  | nil => simpa [separated] using h a List.mem_cons_self
  | cons b bs ih =>
    have hrest := ih fun x hx => h x (List.mem_cons_of_mem _ hx)
    have hcomma := spellsWhole_comma.append_spells hrest
    have hfirst := (h a List.mem_cons_self).append_marked (by decide) (by decide) hcomma
    simpa [separated, List.intercalate] using hfirst

/-- An array of pieces is read as their tokens with commas between them, and
the brackets around. -/
theorem spellsWhole_arrayText {as : List α} (h : ∀ x ∈ as, Spells (text x) (tokens x)) :
    SpellsWhole (arrayText (as.map text))
      (.openBracket :: separated (as.map tokens) ++ [.closeBracket]) := by
  cases as with
  | nil => exact fun _ => rfl
  | cons a as =>
    have hinner := (spells_separated h).append_mark (c := ']') (by decide) (by decide)
      spellsWhole_closeBracket
    exact spellsWhole_openBracket.append hinner

end

/-! ### Strings -/

/-- The items of a character in a written string: its bytes, or an escape
for those controls that have no short one. -/
def charItems (c : Char) : List Item :=
  if c.toNat < 32 ∧ ¬ (c = '\x08' ∨ c = '\x0c' ∨ c = '\n' ∨ c = '\r' ∨ c = '\t') then [.unit c.toNat]
  else (encodeChar c).map .byte

/-- The items of a written string, character by character. -/
def items (cs : List Char) : List Item :=
  cs.flatMap charItems

/-- They spell it, so reading them gives the string. -/
theorem isSpelling_items (cs : List Char) : IsSpelling cs (items cs) := by
  induction cs with
  | nil => exact .nil
  | cons c cs ih =>
    refine .cons ?_ ih
    rw [charItems]
    split
    next hcontrol => exact .unit (by omega)
    · exact .bytes

/-- The items of a written string mean that string. -/
theorem itemsText?_items (cs : List Char) : itemsText? (items cs) = some (String.ofList cs) :=
  (isSpelling_items cs).itemsText?

/-- Bytes that stand for themselves in a string: all but controls, quotes
and backslashes. -/
def isPlain (b : UInt8) : Bool :=
  32 ≤ b && b != 34 && b != 92

/-- The same, said of the number of a byte. Characters that are no ASCII
have only such bytes. -/
theorem isPlain_of_toNat {b : UInt8} (hlow : 32 ≤ b.toNat) (hquote : b.toNat ≠ 34)
    (hbackslash : b.toNat ≠ 92) : isPlain b := by
  have h₁ : (32 : UInt8) ≤ b := UInt8.le_iff_toNat_le.mpr hlow
  have h₂ : b ≠ 34 := fun h => hquote (h ▸ rfl)
  have h₃ : b ≠ 92 := fun h => hbackslash (h ▸ rfl)
  simp [isPlain, h₁, h₂, h₃]

/-- The bytes of a character that isn't escaped stand for themselves. None
of the bytes of a longer character is a quote or a backslash. -/
theorem isPlain_encodeChar {c : Char} (hcontrol : 32 ≤ c.toNat) (hquote : c.toNat ≠ 34)
    (hbackslash : c.toNat ≠ 92) : ∀ b ∈ encodeChar c, isPlain b := by
  have hvalid := Utf8.toNat_bounds c
  -- Every byte of a longer character is at least 128.
  have hlong {n : Nat} (hn : 128 ≤ n) (hbyte : n < 256) : isPlain n.toUInt8 = true := by
    have hnat := Utf8.toNat_toUInt8 hbyte
    exact isPlain_of_toNat (by omega) (by omega) (by omega)
  intro b hb
  unfold encodeChar at hb
  generalize c.toNat = n at *
  simp only at hb
  split at hb
  · obtain rfl := List.mem_singleton.mp hb
    have hnat := Utf8.toNat_toUInt8 (show n < 256 by omega)
    exact isPlain_of_toNat (by omega) (by omega) (by omega)
  · split at hb
    · simp only [List.mem_cons, List.not_mem_nil, or_false] at hb
      rcases hb with rfl | rfl <;> exact hlong (by omega) (by omega)
    · split at hb
      · simp only [List.mem_cons, List.not_mem_nil, or_false] at hb
        rcases hb with rfl | rfl | rfl <;> exact hlong (by omega) (by omega)
      · simp only [List.mem_cons, List.not_mem_nil, or_false] at hb
        rcases hb with rfl | rfl | rfl | rfl <;> exact hlong (by omega) (by omega)

/-- Bytes that stand for themselves are written as they are. -/
theorem areWritten_plain {bytes : List UInt8} (h : ∀ b ∈ bytes, isPlain b) :
    AreWritten (bytes.map .byte) bytes := by
  induction bytes with
  | nil => exact .nil
  | cons b bytes ih =>
    have hb := h b List.mem_cons_self
    simp only [isPlain, Bool.and_eq_true, decide_eq_true_eq, bne_iff_ne, ne_eq] at hb
    exact .cons (.plain hb.1.1 hb.1.2 hb.2) (ih fun x hx => h x (List.mem_cons_of_mem _ hx))

/-- A control character that has no short escape is written with the four
digits of its number. -/
theorem isWritten_control {n : Nat} (h : n < 32) : Item.IsWritten (.unit n)
    (encodeChars ['\\', 'u', '0', '0', Hex.digit (n / 16), Hex.digit (n % 16)]) := by
  have hascii : ∀ d < 16, encodeChars [Hex.digit d] = [d.digitChar.toNat.toUInt8] := by decide
  have hzero : IsHexDigit 48 0 := ⟨by decide, .inl rfl⟩
  have hhigh : IsHexDigit (n / 16).digitChar.toNat.toUInt8 (n / 16) := ⟨by omega, .inl rfl⟩
  have hlow : IsHexDigit (n % 16).digitChar.toNat.toUInt8 (n % 16) := ⟨by omega, .inl rfl⟩
  have hdigits := AreHexDigits.snoc (.snoc (.snoc (.snoc .nil hzero) hzero) hhigh) hlow
  rw [show ((0 * 16 + 0) * 16 + 0) * 16 + n / 16 = n / 16 by omega, Nat.div_add_mod'] at hdigits
  rw [show ['\\', 'u', '0', '0', Hex.digit (n / 16), Hex.digit (n % 16)] =
    ['\\', 'u', '0', '0'] ++ ([Hex.digit (n / 16)] ++ [Hex.digit (n % 16)]) from rfl,
    Utf8.encodeChars_append, Utf8.encodeChars_append, hascii _ (by omega), hascii _ (by omega)]
  exact .unit hdigits rfl

/-- A written character is written as its items: escaped with a letter, with
its number, or not at all. -/
theorem areWritten_escapeChar (c : Char) : AreWritten (charItems c) (encodeChars (escapeChar c)) := by
  have hshort {letter b : UInt8} (h : (letter, b) ∈ shortEscapes) : AreWritten [.byte b] [92, letter] :=
    .cons (.short h) .nil
  -- Seven characters have a short escape, and each of them is a case of its own.
  unfold escapeChar
  split
  · subst_vars
    exact hshort (by decide)
  split
  · subst_vars
    exact hshort (by decide)
  split
  · subst_vars
    exact hshort (by decide)
  split
  · subst_vars
    exact hshort (by decide)
  split
  · subst_vars
    exact hshort (by decide)
  split
  · subst_vars
    exact hshort (by decide)
  split
  · subst_vars
    exact hshort (by decide)
  split
  next hcontrol =>
    rw [charItems, if_pos ⟨hcontrol, by simp [*]⟩]
    have hone := AreWritten.cons (isWritten_control hcontrol) .nil
    rwa [List.append_nil] at hone
  next hquote hbackslash _ _ _ _ _ hcontrol =>
    have hq : c.toNat ≠ 34 := fun h => hquote (Char.toNat_inj.mp h)
    have hb : c.toNat ≠ 92 := fun h => hbackslash (Char.toNat_inj.mp h)
    have hbytes : encodeChars [c] = encodeChar c := List.flatMap_singleton ..
    rw [hbytes, charItems, if_neg (fun h => hcontrol h.1)]
    exact areWritten_plain (isPlain_encodeChar (by omega) hq hb)

/-- A text that is written as a string is written as its items. -/
theorem isWritten_quote (cs : List Char) :
    Token.IsWritten (.string (items cs)) (encodeChars (quote cs)) := by
  have hinside : AreWritten (items cs) (encodeChars (cs.flatMap escapeChar)) := by
    induction cs with
    | nil => exact .nil
    | cons c cs ih =>
      rw [List.flatMap_cons, Utf8.encodeChars_append]
      exact (areWritten_escapeChar c).append ih
  have hquote : encodeChars (quote cs) = 34 :: encodeChars (cs.flatMap escapeChar) ++ [34] := by
    rw [quote, Utf8.encodeChars_append]
    rfl
  rw [hquote]
  exact .string hinside

/-- So it is read as one, whatever characters are in it. -/
theorem spellsWhole_quote (cs : List Char) : SpellsWhole (quote cs) [.string (items cs)] := by
  intro tokens
  exact (isWritten_quote cs).foldlM (by simp) tokens

/-- A text without escapes is written as it is, between quotes. The names of
fields are such texts. -/
theorem quote_of_plain {cs : List Char} (h : ∀ c ∈ cs, escapeChar c = [c]) :
    quote cs = '"' :: cs ++ ['"'] := by
  have hcs : cs.flatMap escapeChar = cs := by
    induction cs with
    | nil => rfl
    | cons c cs ih =>
      rw [List.flatMap_cons, h c List.mem_cons_self, ih fun x hx => h x (List.mem_cons_of_mem _ hx)]
      rfl
  rw [quote, hcs]

/-! ### Objects -/

/-- An object of pieces, with keys that need no escapes. -/
theorem spellsWhole_objectText {α : Type} {key text : α → List Char} {tokens : α → List Token}
    {a : α} {as : List α} (hkey : ∀ x ∈ a :: as, ∀ c ∈ key x, escapeChar c = [c])
    (h : ∀ x ∈ a :: as, Spells (text x) (tokens x)) :
    SpellsWhole (objectText ((a :: as).map fun x => (key x, text x)))
      (.openBrace :: separated ((a :: as).map fun x => .string (items (key x)) :: .colon :: tokens x)
        ++ [.closeBrace]) := by
  have hmember : ∀ x ∈ a :: as, Spells ('"' :: key x ++ '"' :: ':' :: text x)
      (.string (items (key x)) :: .colon :: tokens x) := by
    intro x hx
    have hquote := spellsWhole_quote (key x)
    rw [quote_of_plain (hkey x hx)] at hquote
    have hrest := spellsWhole_colon.append_spells (h x hx)
    simpa using hquote.append_spells hrest
  have hinner := (spells_separated hmember).append_mark (c := '\x7d') (by decide) (by decide)
    spellsWhole_closeBrace
  have hobject := spellsWhole_openBrace.append hinner
  simpa [objectText, List.map_map, Function.comp_def] using hobject

/-! ### Numbers -/

/-- The digits of a number, as bytes. A number is kept by its text, so this
is its value, too. -/
def digitBytes (n : Nat) : List UInt8 :=
  encodeChars (Decimal.digits n)

/-- Each digit is one byte, so a number has as many bytes as it has
characters. -/
theorem encodeChars_digits {cs : List Char} (h : ∀ c ∈ cs, c.isDigit) :
    encodeChars cs = cs.map fun c => c.toNat.toUInt8 := by
  induction cs with
  | nil => rfl
  | cons c cs ih =>
    have hc := Char.isDigit_iff_toNat.mp (h c List.mem_cons_self)
    have : '9'.toNat = 57 := rfl
    rw [encodeChars_cons_ascii (by omega), ih fun x hx => h x (List.mem_cons_of_mem _ hx)]
    rfl

/-- The byte of a digit is what the reader takes for one. -/
theorem isDigit_toUInt8 {c : Char} (h : c.isDigit) : isDigit c.toNat.toUInt8 := by
  have hc := Char.isDigit_iff_toNat.mp h
  have h₀ : '0'.toNat = (48 : UInt8).toNat := rfl
  have h₉ : '9'.toNat = (57 : UInt8).toNat := rfl
  have : (57 : UInt8).toNat = 57 := rfl
  have hnat := Utf8.toNat_toUInt8 (show c.toNat < 256 by omega)
  have hlow : (48 : UInt8) ≤ c.toNat.toUInt8 := UInt8.le_iff_toNat_le.mpr (by omega)
  have hhigh : c.toNat.toUInt8 ≤ (57 : UInt8) := UInt8.le_iff_toNat_le.mpr (by omega)
  simp [isDigit, hlow, hhigh]

/-- A number is written with its digits, which have no zeros in front. With
such zeros it would be no number in JSON. -/
theorem isNumber_digitBytes (n : Nat) : IsNumber (digitBytes n) := by
  have hdigits : ∀ c ∈ Decimal.digits n, c.isDigit := fun c hc => Decimal.digits_isDigit hc
  have hinteger : IsInteger (digitBytes n) := by
    rcases Nat.eq_zero_or_pos n with rfl | hn
    · exact IsInteger.zero (.inl rfl)
    · obtain ⟨c, ds, hds, hc⟩ := Decimal.digits_eq_cons hn
      rw [hds] at hdigits
      rw [digitBytes, hds, encodeChars_digits hdigits, List.map_cons]
      refine IsInteger.digits (.inl rfl) (isDigit_toUInt8 (hdigits c List.mem_cons_self)) ?_ ?_
      · intro h
        have hrange := Char.isDigit_iff_toNat.mp (hdigits c List.mem_cons_self)
        have h₉ : '9'.toNat = 57 := rfl
        have hnat := congrArg UInt8.toNat h
        rw [Utf8.toNat_toUInt8 (by omega)] at hnat
        exact hc (Char.toNat_inj.mp hnat)
      · intro b hb
        obtain ⟨d, hd, rfl⟩ := List.mem_map.mp hb
        exact isDigit_toUInt8 (hdigits d (List.mem_cons_of_mem _ hd))
  simpa using IsNumber.parts hinteger .none .none

/-- A number is read once a byte stands behind it that ends it. -/
theorem spells_digits (n : Nat) : Spells (Decimal.digits n) [.number (digitBytes n)] := by
  intro tokens b rest hends
  obtain ⟨part, hpart, htakes⟩ := takes_isNumber (isNumber_digitBytes n)
  show (digitBytes n ++ b :: rest).foldlM Lexer.step ⟨.between, tokens⟩ = _
  rw [List.foldlM_append, htakes tokens]
  show (b :: rest).foldlM Lexer.step ⟨.number part (digitBytes n).reverse, tokens⟩ = _
  rw [List.foldlM_cons, step_numberEnds hends hpart, List.reverse_reverse]
  rfl

end MapBench.Json
