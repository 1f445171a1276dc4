import Mathlib.Tactic.SplitIfs
import MapBench.Proofs.Json.Tokens

/-!
# `MapBench.Proofs.Json.Scanning`: what is read are texts of tokens

The reader of tokens goes from byte to byte. Wherever it stands, it has
read a text of the tokens that it finished, and the beginning of the one
that it is in. So it reads nothing but texts of tokens.

* `IsNumberPart`, `Underway`: the beginnings of numbers and of tokens.
* `NumberPart.Leads`: what a byte makes of the part of a number before it.
* `Lexer.HasRead`, `Lexer.HasRead.step`: what a reader has read, kept by
  each byte that it accepts.
* `spaced_of_read`: what is read to its end is a text.
-/

set_option autoImplicit false

namespace MapBench.Json

/-- The beginnings of numbers, up to a byte that belongs to a part. For each
part it says what stands before it, back to the first byte. -/
inductive IsNumberPart : NumberPart → List UInt8 → Prop
  | minus : IsNumberPart .minus [45]
  | zero {minus : List UInt8} (minus_eq : minus = [] ∨ minus = [45]) : IsNumberPart .zero (minus ++ [48])
  | whole {minus ds : List UInt8} {d : UInt8} (minus_eq : minus = [] ∨ minus = [45]) (first : isDigit d)
      (nonzero : d ≠ 48) (more : AreDigits ds) : IsNumberPart .whole (minus ++ d :: ds)
  | point {integer : List UInt8} (isInteger : IsInteger integer) : IsNumberPart .point (integer ++ [46])
  | fraction {integer ds : List UInt8} {d : UInt8} (isInteger : IsInteger integer) (first : isDigit d)
      (more : AreDigits ds) : IsNumberPart .fraction (integer ++ 46 :: d :: ds)
  | letter {integer fraction : List UInt8} {letter : UInt8} (isInteger : IsInteger integer)
      (isFraction : IsFraction fraction) (letter_eq : letter = 101 ∨ letter = 69) :
      IsNumberPart .letter (integer ++ fraction ++ [letter])
  | sign {integer fraction : List UInt8} {letter sign : UInt8} (isInteger : IsInteger integer)
      (isFraction : IsFraction fraction) (letter_eq : letter = 101 ∨ letter = 69)
      (sign_eq : sign = 43 ∨ sign = 45) : IsNumberPart .sign (integer ++ fraction ++ [letter, sign])
  | exponent {integer fraction sign ds : List UInt8} {letter d : UInt8} (isInteger : IsInteger integer)
      (isFraction : IsFraction fraction) (letter_eq : letter = 101 ∨ letter = 69)
      (sign_eq : sign = [] ∨ sign = [43] ∨ sign = [45]) (first : isDigit d) (more : AreDigits ds) :
      IsNumberPart .exponent (integer ++ fraction ++ (letter :: sign ++ d :: ds))

/-- One more digit behind digits. Bytes are read one at a time, so digits
grow at their end. -/
theorem AreDigits.snoc {ds : List UInt8} {d : UInt8} (hds : AreDigits ds) (hd : isDigit d) :
    AreDigits (ds ++ [d]) := by
  intro b hb
  rcases List.mem_append.mp hb with hb | hb
  · exact hds b hb
  · rwa [List.mem_singleton.mp hb]

/-- No bytes at all are digits, too. That is how a number begins. -/
theorem areDigits_nil : AreDigits [] :=
  fun _ hb => absurd hb List.not_mem_nil

/-- A number begins with a minus sign, a zero or another digit. -/
theorem isNumberPart_of_first? {b : UInt8} {part : NumberPart} (h : NumberPart.first? b = some part) :
    IsNumberPart part [b] := by
  unfold NumberPart.first? at h
  split at h
  · next hb =>
    cases h
    subst hb
    exact .minus
  split at h
  · next hb =>
    cases h
    subst hb
    exact IsNumberPart.zero (.inl rfl)
  split at h
  · next hzero hdigit =>
    cases h
    exact IsNumberPart.whole (.inl rfl) hdigit hzero areDigits_nil
  · cases h

/-- The letter of an exponent is written in either case. -/
theorem letter_of_isLetter {b : UInt8} (h : NumberPart.isLetter b) : b = 101 ∨ b = 69 := by
  simpa [NumberPart.isLetter] using h

/-- What a byte makes of the part of a number that stands before it. Where
no rule applies the number can't go on. -/
inductive NumberPart.Leads : NumberPart → UInt8 → NumberPart → Prop
  | zero : Leads .minus 48 .zero
  | first {b : UInt8} (nonzero : b ≠ 48) (digit : isDigit b) : Leads .minus b .whole
  | whole {b : UInt8} (digit : isDigit b) : Leads .whole b .whole
  | point {p : NumberPart} (before : p = .zero ∨ p = .whole) : Leads p 46 .point
  | fraction {p : NumberPart} {b : UInt8} (before : p = .point ∨ p = .fraction) (digit : isDigit b) :
      Leads p b .fraction
  | letter {p : NumberPart} {b : UInt8} (before : p = .zero ∨ p = .whole ∨ p = .fraction)
      (letter_eq : b = 101 ∨ b = 69) : Leads p b .letter
  | sign {b : UInt8} (sign_eq : b = 43 ∨ b = 45) : Leads .letter b .sign
  | exponent {p : NumberPart} {b : UInt8} (before : p = .letter ∨ p = .sign ∨ p = .exponent)
      (digit : isDigit b) : Leads p b .exponent

/-- A byte is taken for nothing else. Of the parts that may follow only one
begins with that byte. -/
theorem NumberPart.leads_of_next? {p p' : NumberPart} {b : UInt8} (h : p.next? b = some p') :
    p.Leads b p' := by
  -- One case for each part of a number, and in it one for each kind of byte that may follow.
  cases p with
  | minus =>
    simp only [next?] at h
    split_ifs at h with hzero hdigit <;> cases h
    · exact hzero ▸ .zero
    · exact .first hzero hdigit
  | zero =>
    simp only [next?] at h
    split_ifs at h with hpoint hletter <;> cases h
    · exact hpoint ▸ .point (.inl rfl)
    · exact .letter (.inl rfl) (letter_of_isLetter hletter)
  | whole =>
    simp only [next?] at h
    split_ifs at h with hdigit hpoint hletter <;> cases h
    · exact .whole hdigit
    · exact hpoint ▸ .point (.inr rfl)
    · exact .letter (.inr (.inl rfl)) (letter_of_isLetter hletter)
  | point =>
    simp only [next?] at h
    split_ifs at h with hdigit
    cases h
    exact .fraction (.inl rfl) hdigit
  | fraction =>
    simp only [next?] at h
    split_ifs at h with hdigit hletter <;> cases h
    · exact .fraction (.inr rfl) hdigit
    · exact .letter (.inr (.inr rfl)) (letter_of_isLetter hletter)
  | letter =>
    simp only [next?] at h
    split_ifs at h with hsign hdigit <;> cases h
    · exact .sign (by simpa using hsign)
    · exact .exponent (.inl rfl) hdigit
  | sign =>
    simp only [next?] at h
    split_ifs at h with hdigit
    cases h
    exact .exponent (.inr (.inl rfl)) hdigit
  | exponent =>
    simp only [next?] at h
    split_ifs at h with hdigit
    cases h
    exact .exponent (.inr (.inr rfl)) hdigit

namespace IsNumberPart

variable {part part' : NumberPart} {text : List UInt8} {b : UInt8}

/-- In front of a point stands an integer, and in front of an exponent
without a fraction. -/
theorem isInteger (h : IsNumberPart part text) (hpart : part = .zero ∨ part = .whole) :
    IsInteger text := by
  cases h with
  | zero minus_eq => exact .zero minus_eq
  | whole minus_eq first nonzero more => exact .digits minus_eq first nonzero more
  | _ => simp at hpart

/-- In front of the letter of an exponent stands an integer, perhaps with a
fraction behind it. -/
theorem exists_fraction (h : IsNumberPart part text)
    (hpart : part = .zero ∨ part = .whole ∨ part = .fraction) :
    ∃ integer fraction, IsInteger integer ∧ IsFraction fraction ∧ text = integer ++ fraction := by
  cases h with
  | zero minus_eq => exact ⟨_, [], .zero minus_eq, .none, (List.append_nil _).symm⟩
  | whole minus_eq first nonzero more =>
    exact ⟨_, [], .digits minus_eq first nonzero more, .none, (List.append_nil _).symm⟩
  | fraction isInteger first more => exact ⟨_, _, isInteger, .digits first more, rfl⟩
  | _ => simp at hpart

/-- A digit may stand behind the point, and behind other digits there. -/
theorem snoc_fraction (h : IsNumberPart part text) (hpart : part = .point ∨ part = .fraction)
    (hdigit : isDigit b) : IsNumberPart .fraction (text ++ [b]) := by
  cases h with
  | point isInteger => simpa using fraction isInteger hdigit areDigits_nil
  | fraction isInteger first more => simpa using fraction isInteger first (more.snoc hdigit)
  | _ => simp at hpart

/-- A digit may stand behind the letter of an exponent, behind its sign, and
behind other digits there. -/
theorem snoc_exponent (h : IsNumberPart part text)
    (hpart : part = .letter ∨ part = .sign ∨ part = .exponent) (hdigit : isDigit b) :
    IsNumberPart .exponent (text ++ [b]) := by
  cases h with
  | letter isInteger isFraction letter_eq =>
    simpa using exponent isInteger isFraction letter_eq (.inl rfl) hdigit areDigits_nil
  | @sign _ _ _ s isInteger isFraction letter_eq sign_eq =>
    have hsign : [s] = [] ∨ [s] = [43] ∨ [s] = [45] := by simpa using sign_eq
    simpa using exponent isInteger isFraction letter_eq hsign hdigit areDigits_nil
  | exponent isInteger isFraction letter_eq sign_eq first more =>
    simpa using exponent isInteger isFraction letter_eq sign_eq first (more.snoc hdigit)
  | _ => simp at hpart

/-- A byte that can follow makes a longer beginning. One case for each rule
about what a byte leads to. -/
theorem next (h : IsNumberPart part text) (hnext : part.next? b = some part') :
    IsNumberPart part' (text ++ [b]) := by
  cases NumberPart.leads_of_next? hnext with
  | zero =>
    cases h
    exact .zero (.inr rfl)
  | first nonzero digit =>
    cases h
    exact .whole (.inr rfl) digit nonzero areDigits_nil
  | whole digit =>
    cases h with
    | whole minus_eq first nonzero more =>
      simpa using whole minus_eq first nonzero (more.snoc digit)
  | point before => exact .point (h.isInteger before)
  | fraction before digit => exact h.snoc_fraction before digit
  | letter before letter_eq =>
    obtain ⟨integer, fraction, isInteger, isFraction, rfl⟩ := h.exists_fraction before
    exact .letter isInteger isFraction letter_eq
  | sign sign_eq =>
    cases h with
    | letter isInteger isFraction letter_eq => simpa using sign isInteger isFraction letter_eq sign_eq
  | exponent before digit => exact h.snoc_exponent before digit

/-- Where a number may end, a beginning is a number. It may not end behind a
sign, a point or a letter. -/
theorem isNumber (h : IsNumberPart part text) (hpart : part.complete) : IsNumber text := by
  by_cases hbefore : part = .zero ∨ part = .whole ∨ part = .fraction
  · obtain ⟨integer, fraction, isInteger, isFraction, rfl⟩ := h.exists_fraction hbefore
    simpa using IsNumber.parts isInteger isFraction .none
  · cases h with
    | exponent isInteger isFraction letter_eq sign_eq first more =>
      exact .parts isInteger isFraction (.digits letter_eq sign_eq first more)
    | minus | point | letter | sign => cases hpart
    | zero | whole | fraction => simp at hbefore

end IsNumberPart

/-- One more item behind others that were written. -/
theorem AreWritten.snoc {items : List Item} {item : Item} {text more : List UInt8}
    (h : AreWritten items text) (hitem : item.IsWritten more) :
    AreWritten (items ++ [item]) (text ++ more) := by
  have happend := h.append (.cons hitem .nil)
  rwa [List.append_nil] at happend

/-- The bytes of the token that a reader is in. They are all that the reader
has seen of it, and what it remembers of them. -/
inductive Underway : Lexer.Mode → List UInt8 → Prop
  | between : Underway .between []
  | inString {rev : List Item} {text : List UInt8} (inside : AreWritten rev.reverse text) :
      Underway (.inString rev) (34 :: text)
  | escaped {rev : List Item} {text : List UInt8} (inside : AreWritten rev.reverse text) :
      Underway (.escaped rev) (34 :: text ++ [92])
  | hex {rev : List Item} {text digits : List UInt8} {read value : Nat}
      (inside : AreWritten rev.reverse text) (areDigits : AreHexDigits digits value)
      (length_eq : digits.length = read) (due : read ≤ 3) :
      Underway (.hex rev read value) (34 :: text ++ 92 :: 117 :: digits)
  | number {part : NumberPart} {rev : List UInt8} (isPart : IsNumberPart part rev.reverse) :
      Underway (.number part rev) rev.reverse
  | word {read due : List UInt8} {token : Token} (isWritten : token.IsWritten (read ++ due)) :
      Underway (.word due token) read

/-- One more token behind others, without a blank before it. -/
theorem Spaced.snoc {ts : List Token} {t : Token} {bytes text : List UInt8} (h : Spaced ts bytes)
    (ht : t.IsWritten text) : Spaced (ts ++ [t]) (bytes ++ text) := by
  induction h with
  | nil isBlank => simpa using Spaced.cons isBlank ht (.nil (fun _ hb => absurd hb List.not_mem_nil))
  | cons isBlank first more ih =>
    rw [List.cons_append, List.append_assoc, List.append_assoc]
    exact .cons isBlank first ih

/-- A blank may stand behind tokens, and is none itself. -/
theorem Spaced.append_blank {ts : List Token} {bytes : List UInt8} (h : Spaced ts bytes) {b : UInt8}
    (hb : b ∈ blanks) : Spaced ts (bytes ++ [b]) := by
  induction h with
  | nil isBlank =>
    refine .nil fun c hc => ?_
    rcases List.mem_append.mp hc with hc | hc
    · exact isBlank c hc
    · rwa [List.mem_singleton.mp hc]
  | cons isBlank first more ih =>
    rw [List.append_assoc, List.append_assoc]
    exact .cons isBlank first ih

/-- A reader has read a text of tokens, which it put to those it had
before, and the bytes of the token that it is in. -/
def Lexer.HasRead (l : Lexer) (before : List Token) (bytes : List UInt8) : Prop :=
  ∃ ts x y, l.tokens = ts.reverse ++ before ∧ bytes = x ++ y ∧ Spaced ts x ∧ Underway l.mode y

/-- A byte that is taken for a mark is that mark in writing. -/
theorem isWritten_of_mark? {b : UInt8} {t : Token} (h : Lexer.mark? b = some t) : t.IsWritten [b] := by
  unfold Lexer.mark? at h
  split_ifs at h <;> cases h <;> subst_vars <;> constructor

/-- A word is known by its first letter, and the letters that are due after
it make the word. -/
theorem isWritten_of_word? {b : UInt8} {due : List UInt8} {t : Token}
    (h : Lexer.word? b = some (due, t)) : t.IsWritten (b :: due) := by
  unfold Lexer.word? at h
  split_ifs at h <;> cases h <;> subst_vars <;> constructor

/-- Between tokens, a byte is a blank, a mark, or begins a token. -/
theorem hasRead_of_begin? {before ts : List Token} {bytes : List UInt8} {b : UInt8} {l : Lexer}
    (hts : Spaced ts bytes) (h : Lexer.begin? (ts.reverse ++ before) b = some l) :
    l.HasRead before (bytes ++ [b]) := by
  -- What a byte begins is tried in the order of the lexer: a blank, a text, a mark, a
  -- number, a word.
  unfold Lexer.begin? at h
  split at h
  · next hspace =>
    cases h
    have hb : b ∈ blanks := by simpa [isSpace, blanks, or_assoc] using hspace
    exact ⟨ts, bytes ++ [b], [], rfl, by simp, hts.append_blank hb, .between⟩
  split at h
  · next hquote =>
    cases h
    subst hquote
    exact ⟨ts, bytes, [34], rfl, rfl, hts, .inString .nil⟩
  split at h
  · next token hmark =>
    cases h
    refine ⟨ts ++ [token], bytes ++ [b], [], by simp, by simp, ?_, .between⟩
    exact hts.snoc (isWritten_of_mark? hmark)
  split at h
  · next part hfirst =>
    cases h
    have hpart : Underway (.number part [b]) [b].reverse := .number (isNumberPart_of_first? hfirst)
    exact ⟨ts, bytes, [b], rfl, rfl, hts, hpart⟩
  · obtain ⟨⟨due, token⟩, hword, rfl⟩ := Option.map_eq_some_iff.mp h
    exact ⟨ts, bytes, [b], rfl, rfl, hts, .word (isWritten_of_word? hword)⟩

/-- What is read as a hexadecimal digit is one. -/
theorem isHexDigit_of_hexDigit? {b : UInt8} {n : Nat} (h : hexDigit? b = some n) : IsHexDigit b n := by
  have hall : ∀ k < 256, ∀ m ∈ hexDigit? k.toUInt8, m < 16 ∧
      (k.toUInt8 = m.digitChar.toNat.toUInt8 ∨ k.toUInt8 = m.digitChar.toUpper.toNat.toUInt8) := by
    decide +kernel
  have hb := hall b.toNat b.toNat_lt n
  rw [Utf8.toUInt8_toNat rfl] at hb
  exact hb h

/-- What is read as a short escape is one. The letters are looked for in one
table. -/
theorem mem_shortEscapes_of_shortEscape? {b c : UInt8} (h : shortEscape? b = some c) :
    (b, c) ∈ shortEscapes := by
  have hall : ∀ k < 256, ∀ m ∈ shortEscape? k.toUInt8, (k.toUInt8, m) ∈ shortEscapes := by
    decide +kernel
  have hb := hall b.toNat b.toNat_lt c
  rw [Utf8.toUInt8_toNat rfl] at hb
  exact hb h

section Step

variable {before ts : List Token} {bytes text : List UInt8} {b : UInt8} {l : Lexer} {rev : List Item}

/-- In a string a byte ends it, begins an escape, or is one more item.
Controls are not accepted. -/
theorem hasRead_of_inString (hts : Spaced ts bytes) (inside : AreWritten rev.reverse text)
    (h : Lexer.step ⟨.inString rev, ts.reverse ++ before⟩ b = some l) :
    l.HasRead before (bytes ++ (34 :: text ++ [b])) := by
  simp only [Lexer.step] at h
  split at h
  · next hquote =>
    cases h
    subst hquote
    exact ⟨ts ++ [.string rev.reverse], bytes ++ (34 :: text ++ [34]), [], by simp, by simp,
      hts.snoc (.string inside), .between⟩
  split at h
  · next hbackslash =>
    cases h
    subst hbackslash
    exact ⟨ts, bytes, _, rfl, rfl, hts, .escaped inside⟩
  split at h
  · cases h
  · next hquote hbackslash hlow =>
    cases h
    refine ⟨ts, bytes, 34 :: (text ++ [b]), rfl, rfl, hts, .inString ?_⟩
    rw [List.reverse_cons]
    exact inside.snoc (.plain (UInt8.not_lt.mp hlow) hquote hbackslash)

/-- Behind a backslash a byte is a short escape, or begins a long one. -/
theorem hasRead_of_escaped (hts : Spaced ts bytes) (inside : AreWritten rev.reverse text)
    (h : Lexer.step ⟨.escaped rev, ts.reverse ++ before⟩ b = some l) :
    l.HasRead before (bytes ++ (34 :: text ++ [92] ++ [b])) := by
  simp only [Lexer.step] at h
  split at h
  · next hletter =>
    cases h
    subst hletter
    have hhex : Underway (.hex rev 0 0) (34 :: text ++ 92 :: 117 :: []) := .hex inside .nil rfl (by decide)
    exact ⟨ts, bytes, _, rfl, by simp, hts, hhex⟩
  · obtain ⟨c, hshort, rfl⟩ := Option.map_eq_some_iff.mp h
    refine ⟨ts, bytes, 34 :: (text ++ [92, b]), rfl, by simp, hts, .inString ?_⟩
    rw [List.reverse_cons]
    exact inside.snoc (.short (mem_shortEscapes_of_shortEscape? hshort))

/-- The fourth digit ends a long escape, and those before it only add to its
number. -/
theorem hasRead_of_hex {digits : List UInt8} {value : Nat} (hts : Spaced ts bytes)
    (inside : AreWritten rev.reverse text) (areDigits : AreHexDigits digits value) (due : digits.length ≤ 3)
    (h : Lexer.step ⟨.hex rev digits.length value, ts.reverse ++ before⟩ b = some l) :
    l.HasRead before (bytes ++ (34 :: text ++ 92 :: 117 :: digits ++ [b])) := by
  obtain ⟨d, hdigit, hl⟩ := Option.map_eq_some_iff.mp h
  have hmore := areDigits.snoc (isHexDigit_of_hexDigit? hdigit)
  have hlength : (digits ++ [b]).length = digits.length + 1 := List.length_append
  split at hl
  · subst hl
    refine ⟨ts, bytes, 34 :: (text ++ 92 :: 117 :: (digits ++ [b])), rfl, by simp, hts, .inString ?_⟩
    rw [List.reverse_cons]
    exact inside.snoc (.unit hmore (by omega))
  · subst hl
    refine ⟨ts, bytes, 34 :: text ++ 92 :: 117 :: (digits ++ [b]), rfl, by simp, hts, ?_⟩
    exact .hex inside hmore hlength (by omega)

/-- A byte goes on with a number, or is the first one behind it. In that
case the number is finished, and the byte is read as it would be between
tokens. -/
theorem hasRead_of_number {part : NumberPart} {rev : List UInt8} (hts : Spaced ts bytes)
    (isPart : IsNumberPart part rev.reverse)
    (h : Lexer.step ⟨.number part rev, ts.reverse ++ before⟩ b = some l) :
    l.HasRead before (bytes ++ (rev.reverse ++ [b])) := by
  simp only [Lexer.step] at h
  split at h
  · next part' hnext =>
    cases h
    have hpart : Underway (.number part' (b :: rev)) (b :: rev).reverse := by
      refine .number ?_
      rw [List.reverse_cons]
      exact isPart.next hnext
    exact ⟨ts, bytes, (b :: rev).reverse, rfl, by simp, hts, hpart⟩
  split at h
  · next hcomplete =>
    have hnumber := hts.snoc (.number (isPart.isNumber hcomplete))
    rw [← List.append_assoc]
    exact hasRead_of_begin? hnumber (by simpa using h)
  · cases h

/-- In a word a byte is the one that is due. With the last one the word is
finished. -/
theorem hasRead_of_word {due : List UInt8} {token : Token} (hts : Spaced ts bytes)
    (isWritten : token.IsWritten (text ++ due))
    (h : Lexer.step ⟨.word due token, ts.reverse ++ before⟩ b = some l) :
    l.HasRead before (bytes ++ (text ++ [b])) := by
  simp only [Lexer.step] at h
  split at h
  · cases h
  · split at h
    · next hlast =>
      cases h
      subst hlast
      exact ⟨ts ++ [token], bytes ++ (text ++ [b]), [], by simp, by simp, hts.snoc isWritten, .between⟩
    · cases h
  · split at h
    · next hdue =>
      cases h
      subst hdue
      exact ⟨ts, bytes, text ++ [b], rfl, rfl, hts, .word (by simpa using isWritten)⟩
    · cases h

end Step

/-- Whatever byte a reader accepts, it has read that, too. This is the
invariant of a run of the reader. -/
theorem Lexer.HasRead.step {l l' : Lexer} {before : List Token} {bytes : List UInt8} {b : UInt8}
    (h : l.HasRead before bytes) (hstep : l.step b = some l') : l'.HasRead before (bytes ++ [b]) := by
  obtain ⟨m, tokens⟩ := l
  obtain ⟨ts, x, y, rfl, rfl, hts, hm⟩ := h
  rw [List.append_assoc]
  cases hm with
  | between => exact hasRead_of_begin? hts hstep
  | inString inside => exact hasRead_of_inString hts inside hstep
  | escaped inside => exact hasRead_of_escaped hts inside hstep
  | hex inside areDigits length_eq due =>
    subst length_eq
    exact hasRead_of_hex hts inside areDigits due hstep
  | number isPart => exact hasRead_of_number hts isPart hstep
  | word isWritten => exact hasRead_of_word hts isWritten hstep

/-- What is read to its end is a text of the tokens that it adds. By
induction on the bytes, with the invariant for those before. -/
theorem spaced_of_read {l : Lexer} {before ts : List Token} {bytes rest : List UInt8}
    (h : l.HasRead before bytes) (hread : l.read rest = some ts) :
    ∃ us, ts = before.reverse ++ us ∧ Spaced us (bytes ++ rest) := by
  unfold Lexer.read at hread
  -- What has been read so far is carried along, and at the end a number may still be open.
  induction rest generalizing l bytes with
  | nil =>
    obtain ⟨m, tokens⟩ := l
    obtain ⟨us, x, y, rfl, rfl, hus, hm⟩ := h
    rw [List.append_nil]
    cases hm with
    | between =>
      cases hread
      exact ⟨us, by simp, by simpa using hus⟩
    | @number part rev isPart =>
      by_cases hpart : part.complete = true
      · have hts : ts = before.reverse ++ (us ++ [.number rev.reverse]) := by
          simpa [Lexer.finish, hpart, eq_comm] using hread
        exact ⟨_, hts, hus.snoc (.number (isPart.isNumber hpart))⟩
      · simp [Lexer.finish, hpart] at hread
    | _ => cases hread
  | cons b rest ih =>
    rw [List.foldlM_cons] at hread
    cases hstep : l.step b with
    | none =>
      rw [hstep] at hread
      cases hread
    | some l' =>
      rw [hstep] at hread
      have hrest := ih (h.step hstep) hread
      rwa [List.append_assoc] at hrest

end MapBench.Json
