import MapBench.Proofs.Json.Building
import MapBench.Proofs.Json.Scanning

/-!
# `MapBench.Proofs.Json.Grammar`: all the texts of a value

The texts of a value are the texts of its tokens. Each of them is read as
that value, and nothing else is read at all, so no text means two values.
Behind a text nothing may stand but blanks.

* `Value.tokens`, `Value.IsText`: the tokens of a value, and its texts.
* `Value.builds_tokens`, `Builder.tokens_step`: what is built from tokens.
* `Value.ofBytes?_eq_some_iff`: what is read are exactly the texts.
* `Value.IsText.blank_of_append`: what may stand behind a text.
-/

set_option autoImplicit false

namespace MapBench.Json

namespace Value

/-- A member is smaller than its object, so values can be taken apart down
to their members. -/
theorem sizeOf_member_lt {m : List Item × Value} {members : List (List Item × Value)} (h : m ∈ members) :
    sizeOf m.2 < sizeOf (object members) := by
  have hm := List.sizeOf_lt_of_mem h
  have hparts : sizeOf m = 1 + sizeOf m.1 + sizeOf m.2 := rfl
  rw [object.sizeOf_spec]
  omega

/-- The tokens of a value. A value has one list of them, so all that its
texts differ in is how tokens are written. -/
def tokens : Value → List Token
  | null => [.null]
  | bool b => [.bool b]
  | number text => [.number text]
  | string items => [.string items]
  | array elements => .openBracket :: separated (elements.map tokens) ++ [.closeBracket]
  | object members =>
    .openBrace :: separated (members.map fun m => .string m.1 :: .colon :: m.2.tokens) ++ [.closeBrace]
termination_by v => v
decreasing_by
  · decreasing_tactic
  · exact sizeOf_member_lt ‹_›

/-- The texts of a value: its tokens, written in any way, with blanks
between them. -/
def IsText (v : Value) (bytes : List UInt8) : Prop :=
  Spaced v.tokens bytes

/-- What holds of an array if it holds of its elements, and of an object
if it holds of its members, holds of all values. -/
@[elab_as_elim]
theorem nestedInduction {P : Value → Prop} (null : P .null) (bool : ∀ b, P (.bool b))
    (number : ∀ text, P (.number text)) (string : ∀ items, P (.string items))
    (array : ∀ elements, (∀ v ∈ elements, P v) → P (.array elements))
    (object : ∀ members, (∀ m ∈ members, P m.2) → P (.object members)) : ∀ v, P v
  | .null => null
  | .bool b => bool b
  | .number text => number text
  | .string items => string items
  | .array elements => array elements fun v _ => nestedInduction null bool number string array object v
  | .object members => object members fun m _ => nestedInduction null bool number string array object m.2
termination_by v => v
decreasing_by
  · decreasing_tactic
  · exact sizeOf_member_lt ‹_›

/-- The tokens of a member of an object. -/
def memberTokens (m : List Item × Value) : List Token :=
  .string m.1 :: .colon :: m.2.tokens

/-- The tokens of an array, as its elements are seen from outside. -/
theorem tokens_array (elements : List Value) :
    (array elements).tokens = .openBracket :: separated (elements.map tokens) ++ [.closeBracket] := by
  rw [tokens]

/-- The tokens of an object, as its members are. -/
theorem tokens_object (members : List (List Item × Value)) :
    (object members).tokens = .openBrace :: separated (members.map memberTokens) ++ [.closeBrace] := by
  rw [tokens]
  rfl

/-! ### Values from their tokens -/

/-- A value is built from its tokens. By induction on the value, since the
machine doesn't mind what is open around it. -/
theorem builds_tokens (v : Value) : Builds v.tokens v := by
  induction v using nestedInduction with
  | null => exact fun _ => by rw [tokens]; rfl
  | bool b => exact fun _ => by rw [tokens]; rfl
  | number text =>
    rw [tokens]
    exact builds_number text
  | string items =>
    rw [tokens]
    exact builds_string items
  | array elements ih =>
    rw [tokens_array]
    simpa using builds_array ih
  | object members ih =>
    rw [tokens_object]
    cases members with
    | nil => exact fun _ => rfl
    | cons m ms =>
      have hobject : Builds (.openBrace :: separated ((m :: ms).map memberTokens) ++ [.closeBrace])
          (.object ((m :: ms).map fun x => (x.1, x.2))) := builds_object ih
      have hsame : ((m :: ms).map fun x => (x.1, x.2)) = m :: ms := List.map_id _
      rwa [hsame] at hobject

end Value

/-- The tokens of an array or object that is being read. Elements and
members are kept in reverse, and each has a comma behind it by now. -/
def Frame.tokens : Frame → List Token
  | array rev => .openBracket :: rev.reverse.flatMap fun v => v.tokens ++ [.comma]
  | object rev key =>
    .openBrace :: (rev.reverse.flatMap fun m => Value.memberTokens m ++ [.comma]) ++ [.string key, .colon]

/-- The tokens that were read inside the innermost of them. What is expected
next tells how far that is. -/
def Expected.tokens : Expected → List Token
  | value => []
  | firstElement => [.openBracket]
  | firstKey => [.openBrace]
  | key rev => .openBrace :: rev.reverse.flatMap fun m => Value.memberTokens m ++ [.comma]
  | colon rev name =>
    .openBrace :: (rev.reverse.flatMap fun m => Value.memberTokens m ++ [.comma]) ++ [.string name]
  | after v => v.tokens

/-- The tokens that were read. The builder remembers all of them, only not
in one list. -/
def Builder.tokens (b : Builder) : List Token :=
  b.stack.reverse.flatMap Frame.tokens ++ b.expected.tokens

/-- The last piece stands alone, and each of the others has a comma behind
it. In this form pieces are known while more are still to come. -/
theorem separated_concat {α : Type} (tokens : α → List Token) (as : List α) (a : α) :
    separated ((as ++ [a]).map tokens) = (as.flatMap fun x => tokens x ++ [.comma]) ++ tokens a := by
  induction as with
  | nil => simp [separated]
  | cons b as ih =>
    have hnext : separated ((b :: (as ++ [a])).map tokens) =
        tokens b ++ .comma :: separated ((as ++ [a]).map tokens) := by
      cases as <;> simp [separated, List.intercalate]
    rw [List.cons_append, hnext, ih]
    simp

/-- Whatever token is accepted, it is one more of those that were read. So
the builder can't take anything for something else. -/
theorem Builder.tokens_step {b b' : Builder} {t : Token} (h : b.step t = some b') :
    b'.tokens = b.tokens ++ [t] := by
  have hvalue {stack : List Frame} {t : Token} {b' : Builder} (h : value? stack t = some b') :
      b'.tokens = stack.reverse.flatMap Frame.tokens ++ [t] := by
    cases t <;> cases h <;> simp [tokens, Expected.tokens, Value.tokens]
  obtain ⟨stack, expected⟩ := b
  -- What is expected decides which tokens are accepted at all.
  cases expected with
  | value => simpa [tokens, Expected.tokens] using hvalue h
  | firstElement =>
    by_cases hclose : t = .closeBracket
    · subst hclose
      cases h
      simp [tokens, Expected.tokens, Value.tokens, separated]
    · have hfirst : value? (.array [] :: stack) t = some b' := by
        rw [← h]
        cases t <;> first | rfl | exact absurd rfl hclose
      simpa [tokens, Expected.tokens, Frame.tokens] using hvalue hfirst
  | firstKey =>
    cases t <;> cases h <;> simp [tokens, Expected.tokens, Value.tokens, separated]
  | key rev =>
    cases t <;> cases h
    simp [tokens, Expected.tokens]
  | colon rev name =>
    cases t <;> cases h
    simp [tokens, Expected.tokens, Frame.tokens]
  | after v =>
    change after? stack v t = some b' at h
    -- Behind a value it depends on what is open around it: nothing, an array or an object.
    rcases stack with _ | ⟨⟨rev⟩ | ⟨rev, name⟩, stack⟩
    · cases h
    · cases t with
      | comma =>
        cases h
        simp [tokens, Expected.tokens, Frame.tokens]
      | closeBracket =>
        cases h
        simp only [tokens, Expected.tokens, Value.tokens_array, List.reverse_cons, separated_concat]
        simp [Frame.tokens]
      | _ => cases h
    · cases t with
      | comma =>
        cases h
        simp [tokens, Expected.tokens, Frame.tokens, Value.memberTokens]
      | closeBrace =>
        cases h
        simp only [tokens, Expected.tokens, Value.tokens_object, List.reverse_cons, separated_concat]
        simp [Frame.tokens, Value.memberTokens]
      | _ => cases h

/-- All the tokens that were read are those of what was built. -/
theorem Builder.tokens_foldlM {b b' : Builder} {ts : List Token}
    (h : ts.foldlM Builder.step b = some b') : b'.tokens = b.tokens ++ ts := by
  induction ts generalizing b with
  | nil =>
    cases h
    rw [List.append_nil]
  | cons t ts ih =>
    rw [List.foldlM_cons] at h
    cases hstep : b.step t with
    | none =>
      rw [hstep] at h
      cases h
    | some b₁ =>
      rw [hstep] at h
      rw [ih h, Builder.tokens_step hstep, List.append_assoc]
      rfl

namespace Value

/-- The tokens that are read as a value are its own. One direction is what
the machine builds, the other what it has read. -/
theorem ofTokens?_eq_some_iff {ts : List Token} {v : Value} : ofTokens? ts = some v ↔ ts = v.tokens := by
  constructor
  · intro h
    rw [ofTokens?, Option.bind_eq_some_iff] at h
    obtain ⟨⟨stack, expected⟩, hread, hfinish⟩ := h
    have htokens := Builder.tokens_foldlM hread
    cases stack with
    | nil =>
      cases expected with
      | after w =>
        cases hfinish
        simpa [Builder.tokens, Expected.tokens, Builder.start, eq_comm] using htokens
      | _ => cases hfinish
    | cons frame stack => cases expected <;> cases hfinish
  · rintro rfl
    rw [ofTokens?, Builder.start, v.builds_tokens []]
    rfl

/-! ### Values from their texts -/

/-- A token that is no number can be followed by any. -/
theorem isChain_cons {t : Token} {ts : List Token} (ht : ¬ ∃ text, t = .number text)
    (hts : ts.IsChain Follows) : (t :: ts).IsChain Follows :=
  List.isChain_cons.mpr ⟨fun _ _ hnumber => absurd hnumber ht, hts⟩

/-- Pieces with commas between them can be followed by a mark, if each of
them can. -/
theorem isChain_separated_append {α : Type} {tokens : α → List Token} {as : List α}
    (h : ∀ a ∈ as, ∀ ts, ts.IsChain Follows → (∀ t ∈ ts.head?, t.isMark) →
      (tokens a ++ ts).IsChain Follows) {ts : List Token} (hts : ts.IsChain Follows)
    (hmark : ∀ t ∈ ts.head?, t.isMark) : (separated (as.map tokens) ++ ts).IsChain Follows := by
  induction as with
  | nil => simpa [separated] using hts
  | cons a as ih =>
    have hrest := ih fun b hb => h b (List.mem_cons_of_mem _ hb)
    cases as with
    | nil => simpa [separated] using h a List.mem_cons_self ts hts hmark
    | cons b bs =>
      have hcomma : (.comma :: (separated ((b :: bs).map tokens) ++ ts)).IsChain Follows :=
        isChain_cons (by simp) hrest
      have hfirst := h a List.mem_cons_self _ hcomma (by rintro t ⟨⟩; rfl)
      simpa [separated, List.intercalate] using hfirst

/-- A value can be followed by a mark, as happens inside of arrays and
objects. So no number in it runs into what stands behind it. -/
theorem isChain_tokens_append (v : Value) (ts : List Token) (hts : ts.IsChain Follows)
    (hmark : ∀ t ∈ ts.head?, t.isMark) : (v.tokens ++ ts).IsChain Follows := by
  -- Only a number needs a mark behind it. All other values end in a token that anything may
  -- follow.
  induction v using nestedInduction generalizing ts with
  | null =>
    rw [tokens]
    exact isChain_cons (by simp) hts
  | bool b =>
    rw [tokens]
    exact isChain_cons (by simp) hts
  | number text =>
    rw [tokens]
    exact List.isChain_cons.mpr ⟨fun t ht _ => hmark t ht, hts⟩
  | string items =>
    rw [tokens]
    exact isChain_cons (by simp) hts
  | array elements ih =>
    rw [tokens_array, List.cons_append, List.cons_append, List.append_assoc]
    have hclose : (.closeBracket :: ts).IsChain Follows := isChain_cons (by simp) hts
    exact isChain_cons (by simp) (isChain_separated_append ih hclose (by rintro t ⟨⟩; rfl))
  | object members ih =>
    rw [tokens_object, List.cons_append, List.cons_append, List.append_assoc]
    have hclose : (.closeBrace :: ts).IsChain Follows := isChain_cons (by simp) hts
    have hmember : ∀ m ∈ members, ∀ us, us.IsChain Follows → (∀ t ∈ us.head?, t.isMark) →
        (memberTokens m ++ us).IsChain Follows := by
      intro m hm us hus hus'
      exact isChain_cons (by simp) (isChain_cons (by simp) (ih m hm us hus hus'))
    exact isChain_cons (by simp) (isChain_separated_append hmember hclose (by rintro t ⟨⟩; rfl))

/-- Inside of a value every number is followed by a mark. -/
theorem isChain_tokens (v : Value) : v.tokens.IsChain Follows := by
  simpa using v.isChain_tokens_append [] List.isChain_nil (by simp)

/-- A text is read as the tokens of its value, however they are written. -/
theorem IsText.read {v : Value} {bytes : List UInt8} (h : v.IsText bytes) :
    Lexer.read .start bytes = some v.tokens := by
  have hbytes : Lexer.read ⟨.between, []⟩ (bytes ++ []) =
      Lexer.read ⟨.between, v.tokens.reverse ++ []⟩ [] :=
    Spaced.read h v.isChain_tokens (fun _ _ _ => by simp) []
  rw [List.append_nil] at hbytes
  refine hbytes.trans ?_
  simp [Lexer.read, Lexer.finish]

/-- The reader reads exactly the texts of values. So everything about what
is read can be said of texts. -/
theorem ofBytes?_eq_some_iff {bytes : List UInt8} {v : Value} :
    ofBytes? bytes = some v ↔ v.IsText bytes := by
  have hread : ofBytes? bytes = (Lexer.read .start bytes).bind ofTokens? := rfl
  rw [hread, Option.bind_eq_some_iff]
  constructor
  · rintro ⟨ts, hts, hv⟩
    have hstart : Lexer.start.HasRead [] [] := ⟨[], [], [], rfl, rfl, .nil (by simp), .between⟩
    obtain ⟨us, rfl, hspaced⟩ := spaced_of_read hstart hts
    rw [ofTokens?_eq_some_iff] at hv
    rw [IsText, ← hv]
    exact hspaced
  · intro h
    exact ⟨v.tokens, h.read, ofTokens?_eq_some_iff.mpr rfl⟩

/-- No text means two values, because the reader gives one only. -/
theorem IsText.unique {bytes : List UInt8} {v w : Value} (hv : v.IsText bytes) (hw : w.IsText bytes) :
    v = w := by
  have h := (ofBytes?_eq_some_iff.mpr hv).symm.trans (ofBytes?_eq_some_iff.mpr hw)
  exact Option.some.inj h

/-! ### What may stand behind a text -/

/-- A number begins with a minus sign or a digit. No other token does. -/
theorem exists_head_of_isNumber {text : List UInt8} (h : IsNumber text) :
    ∃ c more, text = c :: more ∧ (c = 45 ∨ isDigit c) := by
  obtain ⟨isInteger, isFraction, isExponent⟩ := h
  cases isInteger with
  | zero minus_eq =>
    rcases minus_eq with rfl | rfl
    · exact ⟨48, _, rfl, .inr rfl⟩
    · exact ⟨45, _, rfl, .inl rfl⟩
  | @digits _ _ d minus_eq first nonzero more =>
    rcases minus_eq with rfl | rfl
    · exact ⟨d, _, rfl, .inr first⟩
    · exact ⟨45, _, rfl, .inl rfl⟩

/-- No token begins with a blank, and numbers are told by the byte that
they begin with. -/
theorem exists_head_of_isWritten {t : Token} {text : List UInt8} (h : t.IsWritten text) :
    ∃ c more, text = c :: more ∧ c ∉ blanks ∧ ((∃ n, t = .number n) ↔ c = 45 ∨ isDigit c) := by
  cases h with
  | number isNumber =>
    obtain ⟨c, more, rfl, hc⟩ := exists_head_of_isNumber isNumber
    refine ⟨c, more, rfl, ?_, by simp [hc]⟩
    simp only [blanks, List.mem_cons, List.not_mem_nil, or_false]
    rintro (rfl | rfl | rfl | rfl) <;> rcases hc with hc | hc <;> cases hc
  | null => exact ⟨110, _, rfl, by simp [blanks], by simp [isDigit]⟩
  | true => exact ⟨116, _, rfl, by simp [blanks], by simp [isDigit]⟩
  | false => exact ⟨102, _, rfl, by simp [blanks], by simp [isDigit]⟩
  | _ => exact ⟨_, _, rfl, by simp [blanks], by simp [isDigit]⟩

/-- Behind their blanks two equal texts begin with the same byte. -/
theorem eq_of_blank_append {blank blank' more more' : List UInt8} {c d : UInt8}
    (hblank : ∀ b ∈ blank, b ∈ blanks) (hblank' : ∀ b ∈ blank', b ∈ blanks) (hc : c ∉ blanks)
    (hd : d ∉ blanks) (h : blank ++ c :: more = blank' ++ d :: more') : c = d := by
  induction blank generalizing blank' with
  | nil =>
    cases blank' with
    | nil => exact (List.cons.inj h).1
    | cons b blank' =>
      obtain ⟨rfl, -⟩ := List.cons.inj h
      exact absurd (hblank' c List.mem_cons_self) hc
  | cons a blank ih =>
    cases blank' with
    | nil =>
      obtain ⟨rfl, -⟩ := List.cons.inj h
      exact absurd (hblank a List.mem_cons_self) hd
    | cons b blank' =>
      exact ih (fun x hx => hblank x (List.mem_cons_of_mem _ hx))
        (fun x hx => hblank' x (List.mem_cons_of_mem _ hx)) (List.cons.inj h).2

/-- A value is a number if its first token is one. -/
theorem exists_tokens_eq_cons (v : Value) :
    ∃ t ts, v.tokens = t :: ts ∧ ((∃ n, t = .number n) ↔ ∃ n, v = .number n) := by
  cases v with
  | array elements => exact ⟨_, _, tokens_array elements, by simp⟩
  | object members => exact ⟨_, _, tokens_object members, by simp⟩
  | _ => exact ⟨_, _, by rw [tokens], by simp⟩

/-- Texts that begin alike are both of numbers, or neither is. -/
theorem IsText.isNumber_iff {v w : Value} {bytes rest : List UInt8} (hv : v.IsText bytes)
    (hw : w.IsText (bytes ++ rest)) : (∃ n, v = .number n) ↔ ∃ n, w = .number n := by
  obtain ⟨t, ts, hts, ht⟩ := v.exists_tokens_eq_cons
  obtain ⟨u, us, hus, hu⟩ := w.exists_tokens_eq_cons
  rw [IsText, hts] at hv
  rw [IsText, hus] at hw
  rw [← ht, ← hu]
  obtain ⟨bytes', hbytes'⟩ : ∃ bytes', bytes' = bytes ++ rest := ⟨_, rfl⟩
  rw [← hbytes'] at hw
  cases hv with
  | @cons _ _ blank text behind isBlank first more =>
    cases hw with
    | @cons _ _ blank' text' behind' isBlank' first' more' =>
      obtain ⟨c, inside, rfl, hc, hct⟩ := exists_head_of_isWritten first
      obtain ⟨d, inside', rfl, hd, hdu⟩ := exists_head_of_isWritten first'
      have hsame : blank ++ c :: (inside ++ (behind ++ rest)) = blank' ++ d :: (inside' ++ behind') := by
        simpa using hbytes'.symm
      rw [hct, hdu, eq_of_blank_append isBlank isBlank' hc hd hsame]

/-- Behind a text that isn't of a number, nothing but blanks can stand.
Behind one that is, more digits could. -/
theorem IsText.blank_of_append {v w : Value} {bytes rest : List UInt8} (hv : v.IsText bytes)
    (hnumber : ¬ ∃ n, v = .number n) (hw : w.IsText (bytes ++ rest)) : ∀ b ∈ rest, b ∈ blanks := by
  -- What is read of it are the tokens of the value, and perhaps more.
  have hlast : ∀ t ∈ v.tokens.getLast?, ¬ ∃ n, t = .number n := by
    intro t ht
    cases v with
    | number n => exact absurd ⟨n, rfl⟩ hnumber
    | array elements =>
      rw [tokens_array, List.getLast?_concat] at ht
      cases ht
      simp
    | object members =>
      rw [tokens_object, List.getLast?_concat] at ht
      cases ht
      simp
    | _ =>
      rw [tokens] at ht
      cases ht
      simp
  have hread : Lexer.read ⟨.between, []⟩ (bytes ++ rest) =
      Lexer.read ⟨.between, v.tokens.reverse ++ []⟩ rest :=
    Spaced.read hv v.isChain_tokens (fun t ht hnum => absurd hnum (hlast t ht)) []
  have hmore : Lexer.HasRead ⟨.between, v.tokens.reverse ++ []⟩ (v.tokens.reverse ++ []) [] :=
    ⟨[], [], [], rfl, rfl, .nil (by simp), .between⟩
  obtain ⟨us, hus, hspaced⟩ := spaced_of_read hmore (hread.symm.trans hw.read)
  rw [List.append_nil, List.reverse_reverse] at hus
  -- But no token can follow on a value that is complete.
  cases us with
  | nil =>
    cases hspaced with
    | nil isBlank => exact isBlank
  | cons u us =>
    have htokens : ofTokens? (v.tokens ++ u :: us) = some w := hus ▸ ofTokens?_eq_some_iff.mpr rfl
    rw [ofTokens?, Builder.start, List.foldlM_append, v.builds_tokens []] at htokens
    cases u <;> cases htokens

end Value

end MapBench.Json
