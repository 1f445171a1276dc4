import MapBench.Proofs.Store.Lasting
import MapBench.Proofs.Text.Utf8

/-!
# `MapBench.Proofs.Store.Journal`: a store file keeps its changes

A store file holds a line for each change, and a change is kept by adding
its line. Whoever opens the file later reads the lines and makes the changes
anew. What was written reads back, whatever bytes the names, keys and values
are made of: they are written in hexadecimal digits, so no blank and no line
end among them can be taken for one that ends a word or a line.

To add lines may break off anywhere. Then the file holds the first changes
and nothing of the others, since a line without an end counts for nothing.

* `StoreChange.ofLine?_line`: a change reads back from its line.
* `Journal.read?_append`: so does a file, and what was begun and not ended
  behind it doesn't count.
* `Journal.exists_read?_of_prefix`: where the writing of changes breaks off,
  the first of them were made.
* `Journal.holds_replay`: the tables that a file leads to hold what the
  changes make of an empty store. `Journal.holds_replay_made`: for that it is
  enough to keep those that were made.
-/

set_option autoImplicit false

namespace MapBench

/-! ### Words and lines -/

/-- Pieces behind a first one, each with the separator before it. -/
theorem intercalate_cons_eq {α : Type} (sep first : List α) (rest : List (List α)) :
    List.intercalate sep (first :: rest) = first ++ rest.flatMap (sep ++ ·) := by
  induction rest generalizing first with
  | nil => simp
  | cons next rest ih =>
    rw [List.intercalate_cons_cons, ih, List.flatMap_cons]
    simp only [List.append_assoc]

/-- Lines with their ends, and what stands behind the last of them. -/
theorem intercalate_concat_eq {α : Type} (sep : List α) (lines : List (List α)) (rest : List α) :
    List.intercalate sep (lines ++ [rest]) = lines.flatMap (· ++ sep) ++ rest := by
  induction lines with
  | nil => simp
  | cons line lines ih =>
    obtain ⟨next, others, hsplit⟩ : ∃ next others, lines ++ [rest] = next :: others :=
      List.exists_cons_of_ne_nil (by simp)
    rw [List.cons_append, hsplit, List.intercalate_cons_cons, ← hsplit, ih, List.flatMap_cons]
    simp only [List.append_assoc]

/-- Of a text of lines with their ends, the lines are what is finished. What
stands behind the last end is a line that broke off, or nothing. -/
theorem dropLast_splitOn_lines {lines : List (List Char)} {rest : List Char}
    (hlines : ∀ line ∈ lines, '\n' ∉ line) (hrest : '\n' ∉ rest) :
    ((lines.flatMap (· ++ ['\n']) ++ rest).splitOn '\n').dropLast = lines := by
  have hall : ∀ line ∈ lines ++ [rest], '\n' ∉ line := by
    intro line hline
    rcases List.mem_append.mp hline with hline | hline
    · exact hlines line hline
    · rwa [List.mem_singleton.mp hline]
  rw [← intercalate_concat_eq, List.splitOn_intercalate '\n' hall (by simp), List.dropLast_concat]

/-- Bytes are written in hexadecimal digits only. -/
theorem Hex.isSome_value?_of_mem_encode {bytes : List UInt8} {c : Char} (h : c ∈ Hex.encode bytes) :
    (Hex.value? c).isSome = true := by
  obtain ⟨b, -, hc⟩ := List.mem_flatMap.mp h
  have hhigh : b.toNat / 16 < 16 := Nat.div_lt_of_lt_mul b.toNat_lt
  have hlow : b.toNat % 16 < 16 := Nat.mod_lt _ (by decide)
  rcases List.mem_pair.mp hc with rfl | rfl
  · rw [Hex.value?_digit hhigh]
    rfl
  · rw [Hex.value?_digit hlow]
    rfl

/-- So no blank and no line end is among them. -/
theorem Hex.notMem_encode {c : Char} (h : Hex.value? c = none) (bytes : List UInt8) :
    c ∉ Hex.encode bytes := by
  intro hmem
  have hdigit := Hex.isSome_value?_of_mem_encode hmem
  rw [h] at hdigit
  exact Bool.false_ne_true hdigit

namespace StoreChange

/-- A verb is a word of its own, without blanks and line ends. -/
theorem notMem_verb (ch : StoreChange) : ' ' ∉ ch.words.1.toList ∧ '\n' ∉ ch.words.1.toList := by
  cases ch <;>
    simp only [words] <;> decide

/-- Keys and values are taken up in turn, and make the pairs again. -/
theorem pairs?_flatMap (rev pairs : List Pair) :
    pairs? rev (pairs.flatMap fun p => [Utf8.encode p.key, p.value]) = some (rev.reverse ++ pairs) := by
  induction pairs generalizing rev with
  | nil => rw [List.flatMap_nil, pairs?, List.append_nil]
  | cons p pairs ih =>
    rw [List.flatMap_cons, List.cons_append, List.singleton_append, pairs?, Utf8.decode?_encode,
      Option.bind_eq_bind, Option.bind_some, ih, List.reverse_cons, List.append_assoc,
      List.singleton_append]

/-- A change is told by its verb and its data. No two kinds of change have
the same verb. -/
theorem ofWords?_words (ch : StoreChange) : ofWords? ch.words.1 ch.words.2 = some ch := by
  cases ch with
  | createPool pool => simp [words, ofWords?, Utf8.decode?_encode]
  | replaceData id data => simp [words, ofWords?, Utf8.decode?_encode]
  | removeObject id => simp [words, ofWords?, Utf8.decode?_encode]
  | writeEntries id batch => simp [words, ofWords?, Utf8.decode?_encode, pairs?_flatMap]

/-- The words of a line are the verb and the data, since no blank is in any
of them. -/
theorem splitOn_line (ch : StoreChange) :
    ch.line.toList.splitOn ' ' = ch.words.1.toList :: ch.words.2.map Hex.encode := by
  have hline : ch.line.toList =
      List.intercalate [' '] (ch.words.1.toList :: ch.words.2.map Hex.encode) := by
    rw [intercalate_cons_eq, List.flatMap_map, line, String.toList_ofList]
    rfl
  have hwords : ∀ word ∈ ch.words.1.toList :: ch.words.2.map Hex.encode, ' ' ∉ word := by
    intro word hword
    rcases List.mem_cons.mp hword with rfl | hword
    · exact ch.notMem_verb.1
    · obtain ⟨bytes, -, rfl⟩ := List.mem_map.mp hword
      exact Hex.notMem_encode (by decide) bytes
  rw [hline, List.splitOn_intercalate ' ' hwords (List.cons_ne_nil _ _)]

/-- A change reads back from its line, whatever names and bytes are in it. -/
theorem ofLine?_line (ch : StoreChange) : ofLine? ch.line.toList = some ch := by
  have hdata : (ch.words.2.map Hex.encode).mapM Hex.decode? = some ch.words.2 := by
    have hback : Hex.decode? ∘ Hex.encode = fun bytes => pure bytes := funext Hex.decode?_encode
    rw [List.mapM_map, hback, List.mapM_pure, List.map_id']
    rfl
  rw [ofLine?, splitOn_line]
  simp only [hdata, Option.bind_some, String.ofList_toList, ofWords?_words]

/-- A line has no end in it, so each change takes up one line. -/
theorem notMem_line (ch : StoreChange) : '\n' ∉ ch.line.toList := by
  rw [line, String.toList_ofList, List.mem_append, List.mem_flatMap]
  rintro (hverb | ⟨bytes, -, hmem⟩)
  · exact ch.notMem_verb.2 hverb
  · rcases List.mem_cons.mp hmem with hblank | hmem
    · exact absurd hblank (by decide)
    · exact Hex.notMem_encode (by decide) bytes hmem

end StoreChange

namespace Journal

/-! ### Files -/

/-- A new file begins with the line that says what it is. Behind that there
is a line for each change. -/
theorem toList_lines (isNew : Bool) (changes : List StoreChange) :
    (lines isNew changes).toList =
      ((if isNew then [header.toList] else []) ++ changes.map fun ch => ch.line.toList).flatMap
        (· ++ ['\n']) := by
  have hend : "\n".toList = ['\n'] := rfl
  cases isNew <;>
    simp [lines, String.toList_append, String.toList_join, List.flatMap_map, hend]

/-- To add lines to a file is to write a file of more changes. -/
theorem lines_append (changes more : List StoreChange) :
    lines true changes ++ lines false more = lines true (changes ++ more) := by
  refine String.toList_inj.mp ?_
  simp only [String.toList_append, toList_lines, ↓reduceIte, Bool.false_eq_true, List.nil_append,
    List.map_append, List.flatMap_append, List.append_assoc]

/-- A file reads back. What was begun behind its last line and not ended
doesn't count. -/
theorem read?_append (changes : List StoreChange) {rest : List Char} (hrest : '\n' ∉ rest) :
    read? (lines true changes ++ String.ofList rest) = some (replay changes) := by
  have hlines : ∀ line ∈ [header.toList] ++ changes.map (fun ch => ch.line.toList), '\n' ∉ line := by
    intro line hline
    rcases List.mem_append.mp hline with hline | hline
    · rw [List.mem_singleton.mp hline]
      decide
    · obtain ⟨ch, -, rfl⟩ := List.mem_map.mp hline
      exact ch.notMem_line
  have hread : (changes.map fun ch => ch.line.toList).mapM StoreChange.ofLine? = some changes := by
    have hback : (StoreChange.ofLine? ∘ fun ch => ch.line.toList) = fun ch => pure ch :=
      funext StoreChange.ofLine?_line
    rw [List.mapM_map, hback, List.mapM_pure, List.map_id']
    rfl
  rw [read?, String.toList_append, String.toList_ofList, toList_lines, if_pos rfl,
    dropLast_splitOn_lines hlines hrest]
  simp only [List.singleton_append, ↓reduceIte, hread, Option.map_some]

/-- Where the writing of changes breaks off, the file holds the first of them,
and all of them if it doesn't. -/
theorem exists_read?_of_prefix (changes more : List StoreChange) {part : List Char}
    (h : part <+: (lines false more).toList) :
    ∃ k ≤ more.length,
      read? (lines true changes ++ String.ofList part) = some (replay (changes ++ more.take k)) ∧
      (part = (lines false more).toList → k = more.length) := by
  induction more generalizing changes part with
  | nil =>
    obtain rfl : part = [] := List.prefix_nil.mp h
    exact ⟨0, Nat.le_refl 0, by rw [List.take_nil, List.append_nil, read?_append changes (by simp)],
      fun _ => rfl⟩
  | cons ch more ih =>
    have hcons : (lines false (ch :: more)).toList =
        ch.line.toList ++ '\n' :: (lines false more).toList := by
      simp [toList_lines]
    rw [hcons] at h ⊢
    obtain ⟨behind, hpart⟩ := h
    obtain ⟨left, hleft, -⟩ | ⟨written, rfl, hwritten⟩ := List.append_eq_append_iff.mp hpart
    · -- It broke off in the line of the first change.
      have hrest : '\n' ∉ part := fun hmem => ch.notMem_line (hleft ▸ List.mem_append_left left hmem)
      refine ⟨0, Nat.zero_le _, by rw [read?_append changes hrest]; simp, fun hall => ?_⟩
      exact absurd (hall ▸ List.mem_append_right _ List.mem_cons_self) hrest
    -- The first line is whole, but without its end it doesn't count.
    · cases written with
      | nil =>
        rw [List.append_nil]
        refine ⟨0, Nat.zero_le _, by rw [read?_append changes ch.notMem_line]; simp, fun hall => ?_⟩
        exact absurd (hall ▸ List.mem_append_right _ List.mem_cons_self) ch.notMem_line
      | cons c written =>
        obtain ⟨rfl, hbehind⟩ := List.cons.inj hwritten
        obtain ⟨k, hk, hread, hwhole⟩ := ih (changes ++ [ch]) ⟨behind, hbehind.symm⟩
        have htext : lines true changes ++ String.ofList (ch.line.toList ++ '\n' :: written) =
            lines true (changes ++ [ch]) ++ String.ofList written := by
          refine String.toList_inj.mp ?_
          simp [toList_lines]
        refine ⟨k + 1, Nat.succ_le_succ hk, ?_, fun hall => ?_⟩
        · rw [htext, hread, List.take_succ_cons, List.append_assoc, List.singleton_append]
        · rw [hwhole (List.cons.inj (List.append_cancel_left hall)).2, List.length_cons]

/-! ### What the tables hold -/

/-- The tables that changes lead to hold what the changes make of an empty
store. -/
theorem holds_replay (changes : List StoreChange) :
    (replay changes).Holds (changes.foldl Contents.after ∅) := by
  have hkept (c : Connection) (A : Contents) (h : c.tables.Holds A) :
      (changes.foldl (fun c ch => (ch.run.run c).2) c).tables.Holds (changes.foldl Contents.after A) := by
    induction changes generalizing c A with
    | nil => exact h
    | cons ch changes ih => exact ih _ _ (h.run_change ch).2
  exact hkept _ _ ⟨∅, ∅, ∅, rfl, .empty⟩

/-- For that it is enough to keep the changes that were made. Those that the
store refused need no line. -/
theorem holds_replay_made (changes : List StoreChange) :
    (replay ((∅ : Contents).made changes)).Holds (changes.foldl Contents.after ∅) := by
  have hholds := holds_replay ((∅ : Contents).made changes)
  rwa [Contents.foldl_after_made] at hholds

end Journal

end MapBench
