import Mathlib.Data.List.Chain
import MapBench.Json.Text
import MapBench.Proofs.Text.Utf8

/-!
# `MapBench.Proofs.Json.Tokens`: all the texts of tokens

A token may be written in many ways, with escapes in its strings, and
blanks may stand between tokens. Here is what a text of tokens is, from
the bytes up, and that each of them is read as its tokens, unless a
number runs into what stands behind it.

* `IsNumber`, `Item.IsWritten`, `Token.IsWritten`: the ways to write a
  token.
* `Spaced`: tokens with blanks.
* `Takes`: bytes that lead from one mode of the reader to another.
* `Token.IsWritten.read`, `Spaced.read`: a text is read as its tokens.
-/

set_option autoImplicit false

namespace MapBench.Json

/-! ### The ways to write a token -/

/-- White space: the space, the tab, and the ends of lines. No other blanks
are allowed between tokens. -/
def blanks : List UInt8 :=
  [32, 9, 10, 13]

/-- Digits of any number, also none. Where one is needed, it is written out
in front of them. -/
def AreDigits (bytes : List UInt8) : Prop :=
  ∀ b ∈ bytes, isDigit b

/-- A sign, if there is one, and zero or digits of which the first isn't
zero. -/
inductive IsInteger : List UInt8 → Prop
  | zero {minus : List UInt8} (minus_eq : minus = [] ∨ minus = [45]) : IsInteger (minus ++ [48])
  | digits {minus ds : List UInt8} {d : UInt8} (minus_eq : minus = [] ∨ minus = [45]) (first : isDigit d)
      (nonzero : d ≠ 48) (more : AreDigits ds) : IsInteger (minus ++ d :: ds)

/-- A point and digits, or nothing. A point alone is no fraction. -/
inductive IsFraction : List UInt8 → Prop
  | none : IsFraction []
  | digits {d : UInt8} {ds : List UInt8} (first : isDigit d) (more : AreDigits ds) :
      IsFraction (46 :: d :: ds)

/-- The letter `e` or `E`, perhaps a sign, and digits, or nothing. -/
inductive IsExponent : List UInt8 → Prop
  | none : IsExponent []
  | digits {letter d : UInt8} {sign ds : List UInt8} (letter_eq : letter = 101 ∨ letter = 69)
      (sign_eq : sign = [] ∨ sign = [43] ∨ sign = [45]) (first : isDigit d) (more : AreDigits ds) :
      IsExponent (letter :: sign ++ d :: ds)

/-- A number in writing: an integer, a fraction and an exponent, of which
only the first has to be there. -/
inductive IsNumber : List UInt8 → Prop
  | parts {integer fraction exponent : List UInt8} (isInteger : IsInteger integer)
      (isFraction : IsFraction fraction) (isExponent : IsExponent exponent) :
      IsNumber (integer ++ fraction ++ exponent)

/-- The short escapes: what stands behind the backslash, and the byte
that is meant. -/
def shortEscapes : List (UInt8 × UInt8) :=
  [(34, 34), (92, 92), (47, 47), (98, 8), (102, 12), (110, 10), (114, 13), (116, 9)]

/-- A hexadecimal digit, in either case, and the number that it stands for. -/
def IsHexDigit (b : UInt8) (n : Nat) : Prop :=
  n < 16 ∧ (b = n.digitChar.toNat.toUInt8 ∨ b = n.digitChar.toUpper.toNat.toUInt8)

/-- Hexadecimal digits, and the number that they denote. They are put
together from the left, as they are read. -/
inductive AreHexDigits : List UInt8 → Nat → Prop
  | nil : AreHexDigits [] 0
  | snoc {ds : List UInt8} {d : UInt8} {v n : Nat} (front : AreHexDigits ds v) (last : IsHexDigit d n) :
      AreHexDigits (ds ++ [d]) (v * 16 + n)

/-- The ways to write an item of a string. A byte that would end the string
or begin an escape can't stand for itself. -/
inductive Item.IsWritten : Item → List UInt8 → Prop
  /-- A byte stands for itself, unless it is a control character, a quote
  or a backslash. -/
  | plain {b : UInt8} (control : 32 ≤ b) (quote : b ≠ 34) (backslash : b ≠ 92) : IsWritten (.byte b) [b]
  | short {letter b : UInt8} (meaning : (letter, b) ∈ shortEscapes) : IsWritten (.byte b) [92, letter]
  | unit {digits : List UInt8} {u : Nat} (areDigits : AreHexDigits digits u) (four : digits.length = 4) :
      IsWritten (.unit u) (92 :: 117 :: digits)

/-- The ways to write items, one after another. Each item is written on its
own. -/
inductive AreWritten : List Item → List UInt8 → Prop
  | nil : AreWritten [] []
  | cons {item : Item} {items : List Item} {text more : List UInt8} (first : item.IsWritten text)
      (rest : AreWritten items more) : AreWritten (item :: items) (text ++ more)

/-- The ways to write a token. Only numbers and strings have more than one. -/
inductive Token.IsWritten : Token → List UInt8 → Prop
  | openBrace : IsWritten .openBrace [123]
  | closeBrace : IsWritten .closeBrace [125]
  | openBracket : IsWritten .openBracket [91]
  | closeBracket : IsWritten .closeBracket [93]
  | colon : IsWritten .colon [58]
  | comma : IsWritten .comma [44]
  | null : IsWritten .null (Utf8.encode "null")
  | true : IsWritten (.bool true) (Utf8.encode "true")
  | false : IsWritten (.bool false) (Utf8.encode "false")
  | number {text : List UInt8} (isNumber : IsNumber text) : IsWritten (.number text) text
  | string {items : List Item} {text : List UInt8} (inside : AreWritten items text) :
      IsWritten (.string items) (34 :: text ++ [34])

/-- Tokens with blanks before, between and behind them. Two numbers without
a blank between them are a text here, too, but they aren't read as two. -/
inductive Spaced : List Token → List UInt8 → Prop
  | nil {blank : List UInt8} (isBlank : ∀ b ∈ blank, b ∈ blanks) : Spaced [] blank
  | cons {t : Token} {ts : List Token} {blank text rest : List UInt8} (isBlank : ∀ b ∈ blank, b ∈ blanks)
      (first : t.IsWritten text) (more : Spaced ts rest) : Spaced (t :: ts) (blank ++ (text ++ rest))

/-! ### Reading a token -/

/-- These bytes lead from one mode to another, with no token finished. What
was read before stays as it is. -/
def Takes (m : Lexer.Mode) (bytes : List UInt8) (m' : Lexer.Mode) : Prop :=
  ∀ tokens, bytes.foldlM Lexer.step ⟨m, tokens⟩ = some ⟨m', tokens⟩

namespace Takes

variable {m m' m'' : Lexer.Mode} {b : UInt8} {bytes more : List UInt8}

/-- No bytes lead nowhere, and the lexer stays as it is. -/
theorem nil : Takes m [] m :=
  fun _ => rfl

/-- Bytes one after another lead from mode to mode. -/
theorem trans (h : Takes m bytes m') (h' : Takes m' more m'') : Takes m (bytes ++ more) m'' := by
  intro tokens
  rw [List.foldlM_append, h tokens]
  exact h' tokens

/-- One byte, and those behind it. A byte that ends a token isn't one of
these, as it adds to the tokens. -/
theorem cons (h : ∀ tokens, Lexer.step ⟨m, tokens⟩ b = some ⟨m', tokens⟩) (h' : Takes m' more m'') :
    Takes m (b :: more) m'' := by
  intro tokens
  rw [List.foldlM_cons, h tokens]
  exact h' tokens

end Takes

namespace NumberPart

/-- The part that a digit belongs to, behind a part that may be followed by
digits. -/
def digits : NumberPart → NumberPart
  | point => fraction
  | letter | sign => exponent
  | part => part

/-- Where a number has begun with digits, one more may stand. A leading zero
is an exception, and a minus sign wants its first digit. -/
theorem next?_digit {part : NumberPart} (hminus : part ≠ minus) (hzero : part ≠ zero) {b : UInt8}
    (h : isDigit b) : part.next? b = some part.digits := by
  have hplus : b ≠ 43 := by
    rintro rfl
    cases h
  have hdash : b ≠ 45 := by
    rintro rfl
    cases h
  cases part <;> simp_all [next?, digits]

end NumberPart

/-- A byte that a number goes on with is kept with those before it. -/
theorem step_number {part part' : NumberPart} {b : UInt8} (h : part.next? b = some part')
    (rev : List UInt8) (tokens : List Token) :
    Lexer.step ⟨.number part rev, tokens⟩ b = some ⟨.number part' (b :: rev), tokens⟩ := by
  simp only [Lexer.step, h]

/-- Digits are read one after another, and stay in their part of the number. -/
theorem takes_digits {part : NumberPart} (hminus : part ≠ .minus) (hzero : part ≠ .zero) {d : UInt8}
    {ds : List UInt8} (hd : isDigit d) (hds : AreDigits ds) (rev : List UInt8) :
    Takes (.number part rev) (d :: ds) (.number part.digits ((d :: ds).reverse ++ rev)) := by
  induction ds generalizing part d rev with
  | nil => exact .cons (step_number (part.next?_digit hminus hzero hd) rev) .nil
  | cons e ds ih =>
    rw [List.reverse_cons, List.append_assoc]
    have hbehind : part.digits ≠ .minus ∧ part.digits ≠ .zero ∧ part.digits.digits = part.digits := by
      cases part <;> simp_all [NumberPart.digits]
    have hmore := ih hbehind.1 hbehind.2.1 (hds e List.mem_cons_self)
      (fun b hb => hds b (List.mem_cons_of_mem _ hb)) (d :: rev)
    rw [hbehind.2.2] at hmore
    exact .cons (step_number (part.next?_digit hminus hzero hd) rev) hmore

/-- Between tokens a digit begins a number. A zero may not have another
digit behind it. -/
theorem step_digit {d : UInt8} (h : isDigit d) (tokens : List Token) :
    Lexer.step ⟨.between, tokens⟩ d = some ⟨.number (if d = 48 then .zero else .whole) [d], tokens⟩ := by
  have hbyte : ∀ n < 58, 48 ≤ n → isSpace n.toUInt8 = false ∧ n.toUInt8 ≠ 34 ∧
      Lexer.mark? n.toUInt8 = none ∧ n.toUInt8 ≠ 45 := by decide
  have hrange : 48 ≤ d.toNat ∧ d.toNat ≤ 57 := by
    simpa [isDigit, UInt8.le_iff_toNat_le] using h
  obtain ⟨hspace, hquote, hmark, hminus⟩ := hbyte d.toNat (by omega) hrange.1
  rw [Utf8.toUInt8_toNat rfl] at hspace hquote hmark hminus
  have hfirst : NumberPart.first? d = some (if d = 48 then .zero else .whole) := by
    by_cases hzero : d = 48 <;> simp [NumberPart.first?, hminus, hzero, h]
  simp only [Lexer.step, Lexer.begin?, hspace, hquote, hmark, hfirst, if_false, Bool.false_eq_true]

/-- An integer is read where a number begins, with or without a sign. -/
theorem takes_integer {integer : List UInt8} (h : IsInteger integer) :
    ∃ part, (part = .zero ∨ part = .whole) ∧ Takes .between integer (.number part integer.reverse) := by
  have hsign : Takes .between [45] (.number .minus [45]) := .cons (fun _ => rfl) .nil
  cases h with
  | zero minus_eq =>
    refine ⟨.zero, .inl rfl, ?_⟩
    rcases minus_eq with rfl | rfl
    · exact .cons (fun _ => rfl) .nil
    · exact hsign.trans (.cons (step_number rfl [45]) .nil)
  | @digits minus ds d minus_eq first nonzero more =>
    refine ⟨.whole, .inr rfl, ?_⟩
    -- The first digit isn't zero. It begins the part that the others go on with.
    have hrest (rev : List UInt8) : Takes (.number .whole rev) ds (.number .whole (ds.reverse ++ rev)) := by
      cases ds with
      | nil => exact .nil
      | cons e ds =>
        exact takes_digits (by decide) (by decide) (more e List.mem_cons_self)
          (fun b hb => more b (List.mem_cons_of_mem _ hb)) rev
    rcases minus_eq with rfl | rfl
    · refine .cons (fun tokens => ?_) (by simpa using hrest [d])
      rw [step_digit first, if_neg nonzero]
    · have hfirst : NumberPart.minus.next? d = some .whole := by
        simp [NumberPart.next?, nonzero, first]
      have hdigits := Takes.cons (step_number hfirst [45]) (hrest [d, 45])
      simpa using hsign.trans hdigits

/-- A fraction is read behind an integer, if there is one. -/
theorem takes_fraction {part : NumberPart} (hpart : part = .zero ∨ part = .whole) {fraction : List UInt8}
    (h : IsFraction fraction) (rev : List UInt8) :
    ∃ part', (part' = .zero ∨ part' = .whole ∨ part' = .fraction) ∧
      Takes (.number part rev) fraction (.number part' (fraction.reverse ++ rev)) := by
  cases h with
  | none => exact ⟨part, by rcases hpart with h | h <;> simp [h], .nil⟩
  | @digits d ds first more =>
    refine ⟨.fraction, .inr (.inr rfl), ?_⟩
    have hpoint : part.next? 46 = some .point := by rcases hpart with rfl | rfl <;> rfl
    have hdigits : Takes (.number .point (46 :: rev)) (d :: ds)
        (.number .fraction ((d :: ds).reverse ++ 46 :: rev)) :=
      takes_digits (by decide) (by decide) first more (46 :: rev)
    simpa using Takes.cons (step_number hpoint rev) hdigits

/-- An exponent is read behind both. After it the number may end. -/
theorem takes_exponent {part : NumberPart} (hpart : part = .zero ∨ part = .whole ∨ part = .fraction)
    {exponent : List UInt8} (h : IsExponent exponent) (rev : List UInt8) :
    ∃ part', part'.complete ∧
      Takes (.number part rev) exponent (.number part' (exponent.reverse ++ rev)) := by
  cases h with
  | none => exact ⟨part, by rcases hpart with rfl | rfl | rfl <;> rfl, .nil⟩
  | @digits letter d sign ds letter_eq sign_eq first more =>
    refine ⟨.exponent, rfl, ?_⟩
    have hletter : part.next? letter = some .letter := by
      rcases hpart with rfl | rfl | rfl <;> rcases letter_eq with rfl | rfl <;> rfl
    rcases sign_eq with rfl | hsign
    · have hdigits : Takes (.number .letter (letter :: rev)) (d :: ds)
          (.number .exponent ((d :: ds).reverse ++ letter :: rev)) :=
        takes_digits (by decide) (by decide) first more (letter :: rev)
      simpa using Takes.cons (step_number hletter rev) hdigits
    · obtain ⟨s, rfl, hs⟩ : ∃ s, sign = [s] ∧ NumberPart.letter.next? s = some .sign := by
        rcases hsign with rfl | rfl <;> exact ⟨_, rfl, rfl⟩
      have hdigits : Takes (.number .sign (s :: letter :: rev)) (d :: ds)
          (.number .exponent ((d :: ds).reverse ++ s :: letter :: rev)) :=
        takes_digits (by decide) (by decide) first more (s :: letter :: rev)
      simpa using Takes.cons (step_number hletter rev) (Takes.cons (step_number hs (letter :: rev)) hdigits)

/-- A number is read up to where it may end, part by part. -/
theorem takes_isNumber {text : List UInt8} (h : IsNumber text) :
    ∃ part, part.complete ∧ Takes .between text (.number part text.reverse) := by
  obtain ⟨isInteger, isFraction, isExponent⟩ := h
  obtain ⟨part, hpart, hinteger⟩ := takes_integer isInteger
  obtain ⟨part', hpart', hfraction⟩ := takes_fraction hpart isFraction _
  obtain ⟨part'', hcomplete, hexponent⟩ := takes_exponent hpart' isExponent _
  refine ⟨part'', hcomplete, ?_⟩
  simpa using (hinteger.trans hfraction).trans hexponent

/-- A hexadecimal digit is read as what it denotes, in either case. -/
theorem hexDigit?_of_isHexDigit {b : UInt8} {n : Nat} (h : IsHexDigit b n) : hexDigit? b = some n := by
  obtain ⟨hn, hb⟩ := h
  have hlower : ∀ n < 16, hexDigit? n.digitChar.toNat.toUInt8 = some n := by decide
  have hupper : ∀ n < 16, hexDigit? n.digitChar.toUpper.toNat.toUInt8 = some n := by decide
  rcases hb with rfl | rfl
  · exact hlower n hn
  · exact hupper n hn

/-- A hexadecimal digit adds four bits to an escape, and the fourth one ends
it. -/
theorem step_hex {b : UInt8} {n : Nat} (h : IsHexDigit b n) (rev : List Item) (read value : Nat)
    (tokens : List Token) :
    Lexer.step ⟨.hex rev read value, tokens⟩ b =
      some ⟨if read = 3 then .inString (.unit (value * 16 + n) :: rev)
        else .hex rev (read + 1) (value * 16 + n), tokens⟩ := by
  unfold Lexer.step
  dsimp only
  rw [hexDigit?_of_isHexDigit h]
  split <;> simp [*]

/-- Up to three hexadecimal digits, more are waited for. -/
theorem AreHexDigits.takes {ds : List UInt8} {v : Nat} (h : AreHexDigits ds v) (hlength : ds.length ≤ 3)
    (rev : List Item) : Takes (.hex rev 0 0) ds (.hex rev ds.length v) := by
  induction h with
  | nil => exact .nil
  | @snoc ds d v n front last ih =>
    rw [List.length_append, List.length_singleton] at hlength ⊢
    refine (ih (by omega)).trans (.cons (fun tokens => ?_) .nil)
    rw [step_hex last, if_neg (by omega)]

/-- An item is read however it is written. A character may be written as
itself, or in one of several escapes. -/
theorem Item.IsWritten.takes {item : Item} {text : List UInt8} (h : item.IsWritten text) (rev : List Item) :
    Takes (.inString rev) text (.inString (item :: rev)) := by
  cases h with
  | @plain b control quote backslash =>
    refine .cons (fun tokens => ?_) .nil
    have hlow : ¬ b < 32 := UInt8.not_lt.mpr control
    simp only [Lexer.step, quote, backslash, hlow, if_false]
  | @short letter b meaning =>
    refine .cons (fun _ => rfl) (.cons (fun tokens => ?_) .nil)
    have hall : ∀ e ∈ shortEscapes, e.1 ≠ 117 ∧ shortEscape? e.1 = some e.2 := by
      simp [shortEscapes, shortEscape?]
    obtain ⟨hletter, hshort⟩ := hall _ meaning
    simp only at hletter hshort
    simp [Lexer.step, hletter, hshort]
  | unit areDigits four =>
    cases areDigits with
    | nil => cases four
    | @snoc ds d v n front last =>
      rw [List.length_append, List.length_singleton] at four
      refine .cons (fun _ => rfl) (.cons (fun _ => rfl) ?_)
      refine (front.takes (by omega) rev).trans (.cons (fun tokens => ?_) .nil)
      rw [step_hex last, if_pos (by omega)]

/-- So are items one after another. They are collected backwards, so the
last one comes first. -/
theorem AreWritten.takes {items : List Item} {text : List UInt8} (h : AreWritten items text)
    (rev : List Item) : Takes (.inString rev) text (.inString (items.reverse ++ rev)) := by
  induction h generalizing rev with
  | nil => exact .nil
  | @cons item items text more first rest ih => simpa using (first.takes rev).trans (ih (item :: rev))

/-- Items that are written one behind the other are written as one text. -/
theorem AreWritten.append {items more : List Item} {text behind : List UInt8}
    (h : AreWritten items text) (hmore : AreWritten more behind) :
    AreWritten (items ++ more) (text ++ behind) := by
  induction h with
  | nil => exact hmore
  | cons first rest ih =>
    rw [List.cons_append, List.append_assoc]
    exact .cons first ih

/-! ### Reading tokens -/

/-- The tokens that a reader comes to if these bytes are the last ones. -/
def Lexer.read (l : Lexer) (bytes : List UInt8) : Option (List Token) :=
  (bytes.foldlM Lexer.step l).bind Lexer.finish

/-- Bytes that can stand behind a number and are no part of it: blanks,
and the marks `{ } [ ] : ,`. -/
def numberEnds : List UInt8 :=
  [32, 9, 10, 13, 123, 125, 91, 93, 58, 44]

/-- What stands behind a number has to end it. Other tokens end by
themselves. -/
def Token.EndsAt (t : Token) (rest : List UInt8) : Prop :=
  (∃ text, t = .number text) → ∀ b ∈ rest.head?, b ∈ numberEnds

/-- Reading can be cut wherever it has come to. -/
theorem read_append {m m' : Lexer.Mode} {bytes : List UInt8} {tokens tokens' : List Token}
    (h : bytes.foldlM Lexer.step ⟨m, tokens⟩ = some ⟨m', tokens'⟩) (rest : List UInt8) :
    Lexer.read ⟨m, tokens⟩ (bytes ++ rest) = Lexer.read ⟨m', tokens'⟩ rest := by
  unfold Lexer.read
  rw [List.foldlM_append, h]
  rfl

/-- Behind a number that may end, a byte that ends numbers begins what is
next. -/
theorem step_numberEnds {b : UInt8} (h : b ∈ numberEnds) {part : NumberPart} (hpart : part.complete)
    (rev : List UInt8) (tokens : List Token) :
    Lexer.step ⟨.number part rev, tokens⟩ b =
      Lexer.step ⟨.between, .number rev.reverse :: tokens⟩ b := by
  have hnext : part.next? b = none := by
    have hall : ∀ e ∈ numberEnds, part.next? e = none := by
      cases part <;> simp [numberEnds, NumberPart.next?, NumberPart.isLetter, isDigit]
    exact hall b h
  simp only [Lexer.step, hnext, hpart, if_true]

/-- Where a number may end, it ends if nothing more of it can follow, also
at the end of all bytes. -/
theorem read_number {part : NumberPart} (hpart : part.complete) {rest : List UInt8}
    (hrest : ∀ b ∈ rest.head?, b ∈ numberEnds) (rev : List UInt8) (tokens : List Token) :
    Lexer.read ⟨.number part rev, tokens⟩ rest =
      Lexer.read ⟨.between, .number rev.reverse :: tokens⟩ rest := by
  unfold Lexer.read
  cases rest with
  | nil => simp [Lexer.finish, hpart]
  | cons b rest => rw [List.foldlM_cons, List.foldlM_cons, step_numberEnds (hrest b rfl) hpart]

/-- A token that is no number ends by itself, so the reader is between
tokens again. -/
theorem Token.IsWritten.foldlM {t : Token} {text : List UInt8} (h : t.IsWritten text)
    (hnumber : ¬ ∃ text, t = .number text) (tokens : List Token) :
    text.foldlM Lexer.step ⟨.between, tokens⟩ = some ⟨.between, t :: tokens⟩ := by
  cases h with
  | number isNumber => exact absurd ⟨_, rfl⟩ hnumber
  | @string items text inside =>
    have hopen : Takes .between (34 :: text) (.inString (items.reverse ++ [])) :=
      .cons (fun _ => rfl) (inside.takes [])
    rw [List.foldlM_append, hopen tokens, List.append_nil]
    show some (Lexer.mk .between (.string items.reverse.reverse :: tokens)) = _
    rw [List.reverse_reverse]
  | _ => rfl

/-- A token is read however it is written, if what stands behind it ends it. -/
theorem Token.IsWritten.read {t : Token} {text : List UInt8} (h : t.IsWritten text) {rest : List UInt8}
    (hrest : t.EndsAt rest) (tokens : List Token) :
    Lexer.read ⟨.between, tokens⟩ (text ++ rest) = Lexer.read ⟨.between, t :: tokens⟩ rest := by
  by_cases hnumber : ∃ text, t = .number text
  · obtain ⟨_, rfl⟩ := hnumber
    cases h with
    | number isNumber =>
      obtain ⟨part, hpart, htakes⟩ := takes_isNumber isNumber
      rw [read_append (htakes tokens), read_number hpart (hrest ⟨_, rfl⟩), List.reverse_reverse]
  · exact read_append (h.foldlM hnumber tokens) rest

/-- Is a token a mark, which is a byte that ends numbers? The other bytes
that do are blanks. -/
def Token.isMark : Token → Bool
  | openBrace | closeBrace | openBracket | closeBracket | colon | comma => true
  | _ => false

/-- A number that another token follows is followed by a mark. Then nothing
runs into it. -/
def Follows (t t' : Token) : Prop :=
  (∃ text, t = .number text) → t'.isMark

/-- A mark begins with a byte that ends numbers. -/
theorem Token.IsWritten.head_mem_numberEnds {t : Token} {text : List UInt8} (h : t.IsWritten text)
    (hmark : t.isMark) (rest : List UInt8) : ∀ b ∈ (text ++ rest).head?, b ∈ numberEnds := by
  cases h <;> first | (rintro b ⟨⟩; decide) | cases hmark

/-- So does a blank, which isn't part of the number. -/
theorem mem_numberEnds_of_blank {b : UInt8} (h : b ∈ blanks) : b ∈ numberEnds := by
  have hall : ∀ b ∈ blanks, b ∈ numberEnds := by simp [blanks, numberEnds]
  exact hall b h

/-- Blanks are skipped between tokens, and leave nothing behind. -/
theorem takes_blank {blank : List UInt8} (h : ∀ b ∈ blank, b ∈ blanks) : Takes .between blank .between := by
  induction blank with
  | nil => exact .nil
  | cons b blank ih =>
    have hall : ∀ b ∈ blanks, isSpace b = true := by simp [blanks, isSpace]
    refine .cons (fun tokens => ?_) (ih fun c hc => h c (List.mem_cons_of_mem _ hc))
    simp only [Lexer.step, Lexer.begin?, hall b (h b List.mem_cons_self), if_true]

/-- What begins with blanks or with a text of tokens ends a number, if
that text begins with a mark. -/
theorem Spaced.head_mem_numberEnds {ts : List Token} {bytes rest : List UInt8} (h : Spaced ts bytes)
    (hmark : ∀ t ∈ ts.head?, t.isMark) (hrest : ts = [] → ∀ b ∈ rest.head?, b ∈ numberEnds) :
    ∀ b ∈ (bytes ++ rest).head?, b ∈ numberEnds := by
  have hblank {blank behind : List UInt8} (hall : ∀ b ∈ blank, b ∈ blanks)
      (hbehind : ∀ b ∈ behind.head?, b ∈ numberEnds) : ∀ b ∈ (blank ++ behind).head?, b ∈ numberEnds := by
    cases blank with
    | nil => exact hbehind
    | cons c blank =>
      rintro b ⟨⟩
      exact mem_numberEnds_of_blank (hall c List.mem_cons_self)
  cases h with
  | nil isBlank => exact hblank isBlank (hrest rfl)
  | cons isBlank first more =>
    rw [List.append_assoc, List.append_assoc]
    exact hblank isBlank (first.head_mem_numberEnds (hmark _ rfl) _)

/-- A text of tokens is read as them, if its numbers end where they
should. -/
theorem Spaced.read {ts : List Token} {bytes : List UInt8} (h : Spaced ts bytes)
    (hfollows : ts.IsChain Follows) {rest : List UInt8} (hrest : ∀ t ∈ ts.getLast?, t.EndsAt rest)
    (tokens : List Token) :
    Lexer.read ⟨.between, tokens⟩ (bytes ++ rest) = Lexer.read ⟨.between, ts.reverse ++ tokens⟩ rest := by
  induction h generalizing tokens with
  | nil isBlank => exact read_append (takes_blank isBlank tokens) rest
  | @cons t ts blank text behind isBlank first more ih =>
    have hends : t.EndsAt (behind ++ rest) := by
      intro hnumber
      refine more.head_mem_numberEnds (fun t' ht' => ?_) fun hts => ?_
      · exact (List.isChain_cons.mp hfollows).1 t' ht' hnumber
      · subst hts
        exact hrest t rfl hnumber
    have hlast : ∀ t' ∈ ts.getLast?, t'.EndsAt rest := by
      intro t' ht'
      refine hrest t' ?_
      cases ts with
      | nil => cases ht'
      | cons u us => simpa [List.getLast?_cons_cons] using ht'
    rw [List.append_assoc, List.append_assoc, read_append (takes_blank isBlank tokens), first.read hends,
      ih (List.isChain_cons.mp hfollows).2 hlast, List.reverse_cons, List.append_assoc]
    rfl

end MapBench.Json
