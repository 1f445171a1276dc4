import MapBench.Json.Record
import MapBench.Proofs.Json.Lexing

/-!
# `MapBench.Proofs.Json.Building`: tokens as values

The machine that builds values reads the tokens of a value as that
value, whatever is open around it. So values are built from the inside
out, and a text is read as a value if its pieces are.

* `Builds`: tokens are read as a value.
* `builds_array`, `builds_object`: arrays and objects of values.
* `ReadsWhole`, `ReadsWhole.ofBytes?`: a text is read as a value.
* `readsWhole_record`, `fields?_record`: records, and the fields of them.
-/

set_option autoImplicit false

namespace MapBench.Json

/-- Tokens are read as a value, whatever is open around them. Since nothing
is said about the stack, values can be put into arrays and objects. -/
def Builds (tokens : List Token) (v : Value) : Prop :=
  ∀ stack, tokens.foldlM Builder.step ⟨stack, .value⟩ = some ⟨stack, .after v⟩

/-- A number is a value of one token. -/
theorem builds_number (text : List UInt8) : Builds [.number text] (.number text) :=
  fun _ => rfl

/-- So is a string. -/
theorem builds_string (items : List Item) : Builds [.string items] (.string items) :=
  fun _ => rfl

/-- The first token of a value doesn't end an array. So an array that has
begun with it isn't empty. -/
theorem Builds.ne_closeBracket {t : Token} {ts : List Token} {v : Value} (h : Builds (t :: ts) v) :
    t ≠ .closeBracket := by
  rintro rfl
  cases h []

/-- No value is read from no tokens at all. -/
theorem Builds.ne_nil {v : Value} : ¬ Builds [] v := by
  intro h
  cases h []

/-- Where an array may end or have its first element, a value is its
first element. -/
theorem Builds.firstElement {ts : List Token} {v : Value} (h : Builds ts v) (stack : List Frame) :
    ts.foldlM Builder.step ⟨stack, .firstElement⟩ = some ⟨.array [] :: stack, .after v⟩ := by
  cases ts with
  | nil => exact absurd h Builds.ne_nil
  | cons t ts =>
    have hstep : Builder.step ⟨stack, .firstElement⟩ t =
        Builder.step ⟨.array [] :: stack, .value⟩ t := by
      cases t <;> first | rfl | exact absurd rfl h.ne_closeBracket
    rw [List.foldlM_cons, hstep, ← List.foldlM_cons]
    exact h (.array [] :: stack)

section

variable {α : Type} {tokens : α → List Token} {value : α → Value}

/-- Behind an element come a comma and the next one, or the end of the
array. By induction on the elements that are still to come, for any that
were read before. -/
theorem foldlM_moreElements (stack : List Frame) {as : List α}
    (h : ∀ x ∈ as, Builds (tokens x) (value x)) (rev : List Value) (v : Value) :
    ((as.flatMap fun x => Token.comma :: tokens x) ++ [Token.closeBracket]).foldlM Builder.step
        ⟨.array rev :: stack, .after v⟩ =
      some ⟨stack, .after (.array (rev.reverse ++ v :: as.map value))⟩ := by
  induction as generalizing rev v with
  | nil => simp [Builder.step, Builder.after?, Option.bind, Pure.pure]
  | cons a as ih =>
    have ha := h a List.mem_cons_self (.array (v :: rev) :: stack)
    have hcomma : Builder.step ⟨.array rev :: stack, .after v⟩ .comma =
        some ⟨.array (v :: rev) :: stack, .value⟩ := rfl
    rw [List.flatMap_cons, List.cons_append, List.cons_append, List.foldlM_cons, hcomma]
    change List.foldlM Builder.step _ _ = _
    rw [List.append_assoc, List.foldlM_append, ha]
    refine (ih (fun x hx => h x (List.mem_cons_of_mem _ hx)) (v :: rev) (value a)).trans ?_
    simp

/-- The first piece stands alone, and each of the others has a comma before
it. -/
theorem separated_cons (a : α) (as : List α) :
    separated ((a :: as).map tokens) = tokens a ++ as.flatMap fun x => .comma :: tokens x := by
  induction as generalizing a with
  | nil => simp [separated]
  | cons b bs ih =>
    have hrest := ih b
    simp only [separated, List.intercalate, List.map_cons, List.intersperse_cons_cons,
      List.flatten_cons, List.flatMap_cons] at hrest ⊢
    rw [hrest]
    simp

/-- An array of values is read from their tokens, with commas between them.
If there are none, the second bracket ends it at once. -/
theorem builds_array {as : List α} (h : ∀ x ∈ as, Builds (tokens x) (value x)) :
    Builds (.openBracket :: separated (as.map tokens) ++ [.closeBracket]) (.array (as.map value)) := by
  intro stack
  cases as with
  | nil => rfl
  | cons a as =>
    have hopen : Builder.step ⟨stack, .value⟩ .openBracket = some ⟨stack, .firstElement⟩ := rfl
    rw [separated_cons, List.cons_append, List.foldlM_cons, hopen]
    change List.foldlM Builder.step _ _ = _
    rw [List.append_assoc, List.foldlM_append, (h a List.mem_cons_self).firstElement]
    exact foldlM_moreElements stack (fun x hx => h x (List.mem_cons_of_mem _ hx)) [] (value a)

variable {key : α → List Item}

/-- The same for the members of an object, each with its name and a colon
before its value. -/
theorem foldlM_moreMembers (stack : List Frame) {as : List α}
    (h : ∀ x ∈ as, Builds (tokens x) (value x)) (rev : List (List Item × Value)) (k : List Item)
    (v : Value) :
    ((as.flatMap fun x => Token.comma :: .string (key x) :: .colon :: tokens x)
        ++ [Token.closeBrace]).foldlM Builder.step ⟨.object rev k :: stack, .after v⟩ =
      some ⟨stack, .after (.object (rev.reverse ++ (k, v) :: as.map fun x => (key x, value x)))⟩ := by
  induction as generalizing rev k v with
  | nil => simp [Builder.step, Builder.after?]
  | cons a as ih =>
    have ha := h a List.mem_cons_self (.object ((k, v) :: rev) (key a) :: stack)
    have hbegin (ts : List Token) :
        (Token.comma :: .string (key a) :: .colon :: ts).foldlM Builder.step
          ⟨.object rev k :: stack, .after v⟩ =
        ts.foldlM Builder.step ⟨.object ((k, v) :: rev) (key a) :: stack, .value⟩ := rfl
    rw [List.flatMap_cons, List.cons_append, List.cons_append, List.cons_append, List.cons_append,
      List.cons_append, List.cons_append, hbegin, List.append_assoc, List.foldlM_append, ha]
    refine (ih (fun x hx => h x (List.mem_cons_of_mem _ hx)) ((k, v) :: rev) (key a) (value a)).trans ?_
    simp

/-- An object of values is read from their names and tokens. It has at least
one member here, as all records do. -/
theorem builds_object {a : α} {as : List α} (h : ∀ x ∈ a :: as, Builds (tokens x) (value x)) :
    Builds (.openBrace :: separated ((a :: as).map fun x => .string (key x) :: .colon :: tokens x)
        ++ [.closeBrace])
      (.object ((a :: as).map fun x => (key x, value x))) := by
  intro stack
  have ha := h a List.mem_cons_self (.object [] (key a) :: stack)
  have hbegin (ts : List Token) :
      (Token.openBrace :: .string (key a) :: .colon :: ts).foldlM Builder.step ⟨stack, .value⟩ =
      ts.foldlM Builder.step ⟨.object [] (key a) :: stack, .value⟩ := rfl
  rw [separated_cons, List.cons_append, List.cons_append, List.cons_append, List.cons_append,
    List.cons_append, hbegin, List.append_assoc, List.foldlM_append, ha]
  exact foldlM_moreMembers stack (fun x hx => h x (List.mem_cons_of_mem _ hx)) [] (key a) (value a)

end

/-! ### Texts of values -/

/-- A text is read as a value, if a byte stands behind it that ends
numbers. -/
def Reads (text : List Char) (v : Value) : Prop :=
  ∃ tokens, Spells text tokens ∧ Builds tokens v

/-- A text is read as a value by itself. No byte behind it is needed to end
it, which is true of everything but numbers. -/
def ReadsWhole (text : List Char) (v : Value) : Prop :=
  ∃ tokens, SpellsWhole text tokens ∧ Builds tokens v

/-- What needs no byte behind it may have one. -/
theorem ReadsWhole.reads {text : List Char} {v : Value} : ReadsWhole text v → Reads text v
  | ⟨tokens, hspells, hbuilds⟩ => ⟨tokens, hspells.spells, hbuilds⟩

/-- A whole text is read as the value that its tokens are. -/
theorem ReadsWhole.ofBytes? {text : List Char} {v : Value} (h : ReadsWhole text v) :
    Value.ofBytes? (Utf8.encodeChars text) = some v := by
  obtain ⟨tokens, hspells, hbuilds⟩ := h
  have htokens : Token.ofBytes? (Utf8.encodeChars text) = some tokens := by
    rw [Token.ofBytes?, Lexer.start, hspells []]
    simp [Lexer.finish]
  rw [Value.ofBytes?, htokens, Option.bind_some, Value.ofTokens?, Builder.start, hbuilds []]
  rfl

/-- The digits of a number are read as that number. -/
theorem reads_digits (n : Nat) : Reads (Decimal.digits n) (.number (digitBytes n)) :=
  ⟨_, spells_digits n, builds_number _⟩

/-- A quoted text is read as the string that it spells. -/
theorem readsWhole_quote (cs : List Char) : ReadsWhole (quote cs) (.string (items cs)) :=
  ⟨_, spellsWhole_quote cs, builds_string _⟩

section

variable {α : Type} {text : α → List Char} {value : α → Value}

/-- The tokens of the pieces, all at once. Each piece has some, and this
gathers them into one function. -/
theorem exists_tokens {as : List α} (h : ∀ x ∈ as, Reads (text x) (value x)) :
    ∃ tokens : α → List Token, ∀ x ∈ as, Spells (text x) (tokens x) ∧ Builds (tokens x) (value x) := by
  have hall : ∀ x, ∃ ts, x ∈ as → Spells (text x) ts ∧ Builds ts (value x) := by
    intro x
    by_cases hx : x ∈ as
    · obtain ⟨ts, hts⟩ := h x hx
      exact ⟨ts, fun _ => hts⟩
    · exact ⟨[], fun hx' => absurd hx' hx⟩
  exact Classical.axiomOfChoice hall

/-- An array is read from the texts of its elements, even if those are
numbers: behind each of them stands a comma or the bracket at the end. -/
theorem readsWhole_arrayText {as : List α} (h : ∀ x ∈ as, Reads (text x) (value x)) :
    ReadsWhole (arrayText (as.map text)) (.array (as.map value)) := by
  obtain ⟨tokens, htokens⟩ := exists_tokens h
  exact ⟨_, spellsWhole_arrayText fun x hx => (htokens x hx).1,
    builds_array fun x hx => (htokens x hx).2⟩

/-- An object is read from its keys, which need no escapes, and the
texts of its members. -/
theorem readsWhole_objectText {key : α → List Char} {a : α} {as : List α}
    (hkey : ∀ x ∈ a :: as, ∀ c ∈ key x, escapeChar c = [c])
    (h : ∀ x ∈ a :: as, Reads (text x) (value x)) :
    ReadsWhole (objectText ((a :: as).map fun x => (key x, text x)))
      (.object ((a :: as).map fun x => (items (key x), value x))) := by
  obtain ⟨tokens, htokens⟩ := exists_tokens h
  exact ⟨_, spellsWhole_objectText hkey fun x hx => (htokens x hx).1,
    builds_object fun x hx => (htokens x hx).2⟩

end

/-! ### Records -/

/-- The value of a record with named fields, in their order. -/
def Value.record (fields : List (String × Value)) : Value :=
  .object (fields.map fun f => (items f.1.toList, f.2))

/-- A record is read from the names, texts and values of its fields, if
the names need no escapes. -/
theorem readsWhole_record {fields : List (String × List Char × Value)} (hne : fields ≠ [])
    (hname : ∀ f ∈ fields, ∀ c ∈ f.1.toList, escapeChar c = [c])
    (h : ∀ f ∈ fields, Reads f.2.1 f.2.2) :
    ReadsWhole (objectText (fields.map fun f => (f.1.toList, f.2.1)))
      (.record (fields.map fun f => (f.1, f.2.2))) := by
  cases fields with
  | nil => exact absurd rfl hne
  | cons f fs =>
    rw [Value.record, List.map_map]
    exact readsWhole_objectText hname h

/-- The members of a record are found under the names that they were written
with. -/
theorem Value.namedMembers?_items (fields : List (String × Value)) :
    namedMembers? (fields.map fun f => (items f.1.toList, f.2)) = some fields := by
  rw [namedMembers?]
  induction fields with
  | nil => rfl
  | cons f fs ih =>
    rw [List.map_cons, List.mapM_cons, ih, itemsText?_items, String.ofList_toList]
    rfl

/-- The fields of a record are found under their names, in the order in
which they are asked for. -/
theorem Value.fields?_record (names : List String) (fields : List (String × Value)) :
    (record fields).fields? names = names.mapM fun name => unique? name fields := by
  rw [record, fields?, namedMembers?_items, Option.bind_some]

end MapBench.Json
