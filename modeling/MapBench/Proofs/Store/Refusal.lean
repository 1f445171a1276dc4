import MapBench.Proofs.Store.Rows
import MapBench.Store.Statement
import Mathlib.Algebra.Order.BigOperators.Group.List
import Mathlib.Algebra.Order.Group.Nat

/-!
# `MapBench.Proofs.Store.Refusal`: what a store refuses to write

A store doesn't write a row that is too long, nor an entry without a key,
nor anything into a table that isn't there. A batch with one pair that is
refused is refused as a whole, for the reason of the first such pair.

* `Row.not_fits_of_maxSize_le`: a single long column is enough.
* `Batch.Fits`: the rows that a batch needs can all be written.
* `Pair.refusal?`, `Batch.refusal?`: why a store with all its tables
  doesn't write a pair or a batch, if it doesn't.
* `Connection.refusal?`: the same for any store.
-/

set_option autoImplicit false

namespace MapBench

namespace Row

/-- No record is shorter than one of its columns. By induction on the
columns, as the record is their sum. -/
theorem length_lt_size {row : Row} {c : Column} (h : c ∈ row) : c.length < row.size := by
  rw [size]
  induction row with
  | nil => cases h
  | cons first row ih =>
    rw [List.foldr_cons]
    rcases List.mem_cons.mp h with rfl | hrest
    · omega
    · have hlater := ih hrest
      omega

/-- So a column that is too long for itself is too long for every row. This
spares adding up the others. -/
theorem not_fits_of_maxSize_le {row : Row} {c : Column} (h : c ∈ row) (hlong : maxSize ≤ c.length) :
    ¬ row.Fits :=
  Nat.not_le.mpr (Nat.lt_of_le_of_lt hlong (length_lt_size h))

/-- Where an entry fits, the row of a new object does: the names are the
same, and the data is empty. -/
theorem ofObject_fits_of_ofEntry {id : ObjectId} (p : Pair) (h : (ofEntry id p).Fits) :
    (ofObject id []).Fits := by
  have hempty : (Column.bytes 0).codeLength = 1 := by decide
  have hcode : 1 ≤ (Column.bytes p.size).codeLength := Nat.le_add_left 1 _
  simp only [Fits, size, ofEntry, ofObject, List.foldr_cons, List.foldr_nil, List.length_nil,
    hempty, Column.length] at h ⊢
  omega

end Row

/-! ### Pairs and batches -/

/-- The rows that a batch needs in the map of an object can all be
written: that of the object, which may be new, and one for each pair. -/
def Batch.Fits (id : ObjectId) (batch : Batch) : Prop :=
  (Row.ofObject id []).Fits ∧ ∀ p ∈ batch.pairs, (Row.ofEntry id p).Fits

/-- Why a store with all its tables doesn't write a pair, if it doesn't. A
row that is too long is noticed before an empty key. -/
def Pair.refusal? (id : ObjectId) (p : Pair) : Option StatementError :=
  if (Row.ofEntry id p).Fits then if p.key = "" then some .emptyKey else none
  else some .tooBig

/-- Why it doesn't write a batch: for the object's row, which comes first,
or for the first pair that it refuses. -/
def Batch.refusal? (id : ObjectId) (batch : Batch) : Option StatementError :=
  if (Row.ofObject id []).Fits then batch.pairs.findSome? (Pair.refusal? id) else some .tooBig

/-- A pair is written if its row fits and its key isn't empty. -/
theorem Pair.refusal?_eq_none_iff {id : ObjectId} {p : Pair} :
    p.refusal? id = none ↔ (Row.ofEntry id p).Fits ∧ p.key ≠ "" := by
  rw [refusal?]
  by_cases hfits : (Row.ofEntry id p).Fits <;> by_cases hkey : p.key = "" <;> simp [hfits, hkey]

/-- A batch is written if all its rows fit and no key is empty. -/
theorem Batch.refusal?_eq_none_iff {id : ObjectId} {batch : Batch} :
    batch.refusal? id = none ↔ batch.Fits id ∧ "" ∉ batch.keys := by
  have hpairs : batch.pairs.findSome? (Pair.refusal? id) = none ↔
      (∀ p ∈ batch.pairs, (Row.ofEntry id p).Fits) ∧ "" ∉ batch.keys := by
    simp only [List.findSome?_eq_none_iff, Pair.refusal?_eq_none_iff, Batch.keys, List.mem_map,
      not_exists, not_and, ne_eq, imp_and, forall_and]
  rw [refusal?, Fits]
  split
  next hfits => rw [hpairs, and_iff_right hfits]
  next hfits => simp [hfits]

/-- Whether a transaction that writes into the map of an object gets as
far as to prepare the statement for it. -/
def Connection.prepares (c : Connection) (id : ObjectId) : Bool :=
  c.tables.objects.isSome && c.tables.entries.isSome && decide (Row.ofObject id []).Fits

/-- Why a batch isn't written into the map of an object, if it isn't. The
statement that writes entries needs its table when it is prepared, and
that happens once in a connection; after that it isn't until there is a
pair to write that anyone looks for the table. -/
def Connection.refusal? (c : Connection) (id : ObjectId) (batch : Batch) : Option StatementError :=
  match c.tables.objects, c.tables.entries with
  | none, _ => some (.noSuchTable .objects)
  | some _, some _ => batch.refusal? id
  | some _, none =>
    if ¬ (Row.ofObject id []).Fits then some .tooBig
    else if ¬ c.entryReady then some (.noSuchTable .entries)
    else batch.pairs.head?.map fun p =>
      if (Row.ofEntry id p).Fits then .noSuchTable .entries else .tooBig

end MapBench
