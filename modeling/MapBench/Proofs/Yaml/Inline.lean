import MapBench.Yaml.Scalar

/-!
# `MapBench.Proofs.Yaml.Inline`: scalars on one line

Any text can be written between double quotes on one line, if the
characters that would end it, or would be folded, are escaped. A word of
letters and digits needs no quotes in front of a mark of a flow collection.
Both are read as what was written.

* `quote`: a text in quotes.
* `quotedScalar_quote`: it is read.
* `plainScalar_word`: words are read.
-/

set_option autoImplicit false

namespace MapBench.Yaml

/-! ### Places on the first line -/

namespace Cursor

/-- A place on the first line, with so many characters before it. On one
line the column is the number of those characters, so there is only one
number to keep. -/
def onLine (rest : List Char) (i : Nat) : Cursor :=
  ⟨rest, i, 1, i⟩

variable {rest : List Char} {i : Nat}

/-- One step further on the line. -/
theorem next_onLine {c : Char} (h : c ≠ '\n') : (onLine (c :: rest) i).next = onLine rest (i + 1) := by
  simp [onLine, next, h]

/-- Several steps further, over characters that don't end the line. -/
theorem skip_onLine {cs : List Char} (h : '\n' ∉ cs) :
    (onLine (cs ++ rest) i).skip cs.length = onLine rest (i + cs.length) := by
  induction cs generalizing i with
  | nil => rfl
  | cons c cs ih =>
    rw [List.mem_cons, not_or] at h
    rw [List.cons_append, List.length_cons, skip, next_onLine (Ne.symm h.1), ih h.2]
    congr 1
    omega

/-- Marks between documents stand at the beginning of a line, so there is
none further on. -/
theorem atAnyDocumentMark_onLine (h : 0 < i) : (onLine rest i).atAnyDocumentMark = false := by
  have hcolumn : i ≠ 0 := Nat.ne_of_gt h
  simp [atAnyDocumentMark, atDocumentMark, onLine, hcolumn]

end Cursor

open Cursor (onLine)

/-! ### Text in quotes -/

/-- The letter behind a backslash that stands for a character. Characters
that may stand for themselves have none. -/
def escapeLetter? : Char → Option Char
  | '\x00' => some '0'
  | '\t' => some 't'
  | '\n' => some 'n'
  | '\r' => some 'r'
  | ' ' => some ' '
  | '"' => some '"'
  | '\\' => some '\\'
  | _ => none

/-- A character of a text in quotes. Those that would end the text, or would
be folded or skipped, are written with a backslash and a letter. -/
def escaped (c : Char) : List Char :=
  match escapeLetter? c with
  | some letter => ['\\', letter]
  | none => [c]

/-- A text in quotes. However long it is, it is on one line. -/
def quote (cs : List Char) : List Char :=
  '"' :: (cs.flatMap escaped ++ ['"'])

/-- A character is either escaped with a letter that stands for it, or one
that has no meaning of its own in quotes. -/
theorem escaped_cases (c : Char) :
    (∃ letter, escaped c = ['\\', letter] ∧ letter ≠ '\n' ∧ letter ≠ '\x00' ∧ isBreak letter = false ∧
      escapeValue? letter = some c) ∨
    (escaped c = [c] ∧ isGap c = false ∧ c ≠ '"' ∧ c ≠ '\\') := by
  unfold escaped escapeLetter?
  split
  next letter h =>
    left
    refine ⟨letter, rfl, ?_⟩
    split at h <;> cases h <;> decide
  next h =>
    right
    split at h <;> simp_all [isGap, isBlank, isBreakOrEnd, isBreak]

/-- An escaped character is on one line, and doesn't end the text. -/
theorem notMem_escaped {c x : Char} (hx : x = '\n' ∨ x = '\x00') : x ∉ escaped c := by
  rcases escaped_cases c with ⟨letter, heq, hnewline, hnul, -⟩ | ⟨heq, hgap, -⟩
  · rw [heq]
    rcases hx with rfl | rfl <;> simp [hnewline.symm, hnul.symm]
  · rw [heq, List.mem_singleton]
    rintro rfl
    rcases hx with rfl | rfl <;> exact absurd hgap (by decide)

/-- So a text in quotes is on one line as a whole. -/
theorem notMem_quote {cs : List Char} {x : Char} (hx : x = '\n' ∨ x = '\x00') : x ∉ quote cs := by
  have hquote : x ≠ '"' := by rcases hx with rfl | rfl <;> decide
  simp [quote, hquote, notMem_escaped hx]

section

variable {rest cs : List Char} {i n : Nat}

/-- The next character on the line. -/
@[simp] theorem head_onLine (c : Char) : (onLine (c :: rest) i).head = c :=
  rfl

/-- The one after it. -/
@[simp] theorem peek_one_onLine (c d : Char) : (onLine (c :: d :: rest) i).peek 1 = d :=
  rfl

/-- A character is read as what was written, in one step of the reader
whether it is escaped or not. -/
theorem quotedWord_escaped (c : Char) (rev : List Char) :
    quotedWord false (n + 1) (onLine (escaped c ++ rest) i) rev =
      quotedWord false n (onLine rest (i + (escaped c).length)) (c :: rev) := by
  rcases escaped_cases c with ⟨letter, heq, hnewline, -, hbreak, hvalue⟩ | ⟨heq, hgap, hquote, hslash⟩
  · have hbackslash : '\n' ∉ ['\\', letter] := by simp [hnewline.symm]
    have hskip : (onLine ('\\' :: letter :: rest) i).skip 2 = onLine rest (i + 2) :=
      Cursor.skip_onLine hbackslash
    have hslash : isGap '\\' = false := by decide
    rw [heq, quotedWord]
    simp [hslash, hbreak, hvalue, hskip]
  · have hnewline : c ≠ '\n' := by
      rintro rfl
      exact absurd hgap (by decide)
    rw [heq, quotedWord]
    simp [hgap, hquote, hslash, Cursor.next_onLine hnewline]

/-- So are all characters up to the closing quote, given steps enough for
them. -/
theorem quotedWord_quote (hn : cs.length < n) (rev : List Char) :
    quotedWord false n (onLine (cs.flatMap escaped ++ '"' :: rest) i) rev =
      some (onLine ('"' :: rest) (i + (cs.flatMap escaped).length), cs.reverse ++ rev, .atQuote) := by
  induction cs generalizing n i rev with
  | nil =>
    obtain ⟨n, rfl⟩ : ∃ m, n = m + 1 := ⟨n - 1, by simp at hn; omega⟩
    have hquote : isGap '"' = false := by decide
    rw [quotedWord]
    simp [hquote]
  | cons c cs ih =>
    obtain ⟨n, rfl⟩ : ∃ m, n = m + 1 := ⟨n - 1, by omega⟩
    rw [List.flatMap_cons, List.append_assoc, quotedWord_escaped, ih (by simpa using hn), List.length_append,
      List.reverse_cons, List.append_assoc, Nat.add_assoc]
    rfl

/-- Escapes only make a text longer. So there are enough steps for its
characters if there are for the text in quotes. -/
theorem length_le_flatMap_escaped (cs : List Char) : cs.length ≤ (cs.flatMap escaped).length := by
  induction cs with
  | nil => exact Nat.le_refl 0
  | cons c cs ih =>
    have : 1 ≤ (escaped c).length := by
      rcases escaped_cases c with ⟨letter, heq, -⟩ | ⟨heq, -⟩ <;> simp [heq]
    rw [List.flatMap_cons, List.length_append, List.length_cons]
    omega

/-- A text in quotes is read as that text, and reading goes on behind the
closing quote. -/
theorem quotedScalar_quote : quotedScalar (onLine (quote cs ++ rest) i) =
    some (cs, onLine rest (i + (quote cs).length)) := by
  have hopen : (onLine (quote cs ++ rest) i).next = onLine (cs.flatMap escaped ++ '"' :: rest) (i + 1) := by
    rw [quote, List.cons_append, List.append_assoc, Cursor.next_onLine (by decide)]
    rfl
  have hhead : ((onLine (quote cs ++ rest) i).head == '\'') = false := by
    rw [quote, List.cons_append, head_onLine]
    decide
  have hend : (onLine (cs.flatMap escaped ++ '"' :: rest) (i + 1)).atEnd = false := by
    simp [onLine, Cursor.atEnd]
  have hlength := length_le_flatMap_escaped cs
  rw [quotedScalar, hhead, hopen, quotedWords, Cursor.atAnyDocumentMark_onLine (Nat.succ_pos i), hend,
    quotedWord_quote]
  · simp [Folding.start, quote, Cursor.next_onLine, Nat.add_assoc, Nat.add_comm 1]
  · simp only [onLine, List.length_append, List.length_cons]
    omega

end

/-! ### Words -/

/-- A word of letters and digits. Numbers and the names of truth values are
such words. -/
structure IsWord (cs : List Char) : Prop where
  ne_nil : cs ≠ []
  isAlphanum : ∀ c ∈ cs, c.isAlphanum

/-- A letter or digit is no other character. -/
theorem ne_of_isAlphanum {c d : Char} (h : c.isAlphanum) (hd : d.isAlphanum = false) : c ≠ d := by
  rintro rfl
  rw [h] at hd
  cases hd

/-- Letters and digits have no other meaning: they neither end a word nor
begin a comment or a value. -/
theorem isAlphanum_cases {c : Char} (h : c.isAlphanum) :
    isGap c = false ∧ isFlowMark c = false ∧ c ≠ ':' ∧ c ≠ '#' := by
  have hne (d : Char) (hd : d.isAlphanum = false) : c ≠ d := ne_of_isAlphanum h hd
  simp [isGap, isBlank, isBreakOrEnd, isBreak, isFlowMark, hne]

section

variable {rest cs : List Char} {i : Nat} {x : Char}

/-- A word ends at a mark of a flow collection, without a blank between
them. -/
theorem plainWord_word (hcs : ∀ c ∈ cs, c.isAlphanum) (hx : isFlowMark x) :
    plainWord true (cs ++ x :: rest) = cs := by
  induction cs with
  | nil =>
    rw [List.nil_append, plainWord]
    simp [hx]
  | cons c cs ih =>
    obtain ⟨hgap, hmark, hcolon, -⟩ := isAlphanum_cases (hcs c List.mem_cons_self)
    rw [List.cons_append, plainWord, ih fun d hd => hcs d (List.mem_cons_of_mem c hd)]
    simp [hgap, hmark, hcolon]

/-- A word is read in front of a mark of a flow collection. It isn't the
beginning of a document, so no mark for that can be there. -/
theorem plainScalar_word (hcs : IsWord cs) (hx : isFlowMark x) (hi : 0 < i) (indent : Int) :
    plainScalar true indent (onLine (cs ++ x :: rest) i) =
      some (cs, false, onLine (x :: rest) (i + cs.length)) := by
  have hnewline : '\n' ∉ cs := fun h => absurd (hcs.isAlphanum _ h) (by decide)
  have hword : plainWord true (onLine (cs ++ x :: rest) i).rest = cs := plainWord_word hcs.isAlphanum hx
  have hhash : ((onLine (cs ++ x :: rest) i).head == '#') = false := by
    cases cs with
    | nil => exact absurd rfl hcs.ne_nil
    | cons c cs =>
      rw [List.cons_append, head_onLine, beq_eq_false_iff_ne]
      exact ne_of_isAlphanum (hcs.isAlphanum c List.mem_cons_self) (by decide)
  -- No mark is a blank or ends a line.
  have hgap : isBlank x = false ∧ isBreak x = false := by
    simp only [isFlowMark, Bool.or_eq_true, beq_iff_eq] at hx
    rcases hx with (((rfl | rfl) | rfl) | rfl) | rfl <;> decide
  rw [plainScalar, plainWords, Cursor.atAnyDocumentMark_onLine hi, hhash, hword]
  simp only [Cursor.skip_onLine hnewline]
  simp [hgap, hcs.ne_nil, Folding.start, Folding.join, Folding.push]

end

end MapBench.Yaml
