import MapBench.Batch.Basic
import MapBench.Store.Tables

/-!
# `MapBench.Store.Row`: how long a row may be

A row is kept as one record: a header with a number for each column,
which tells the kind and the length of the column, and behind it the
columns themselves. A store takes records of up to 1,000,000,000 bytes.
A statement that would make a longer one is refused.

Both names of an object are part of every row of its map, so how long a
value may be depends on them, too.
-/

set_option autoImplicit false

namespace MapBench

/-- A column of a row, by its length in bytes. -/
inductive Column
  | text (length : Nat)
  | bytes (length : Nat)
  deriving Repr, DecidableEq

namespace Column

/-- How many bytes the column has. -/
def length : Column → Nat
  | text length | bytes length => length

/-- The number that tells the kind of the column and its length. -/
def code : Column → Nat
  | text length => 2 * length + 13
  | bytes length => 2 * length + 12

/-- The bytes of that number, each of which has room for seven of its
bits. -/
def codeLength (c : Column) : Nat :=
  c.code.log2 / 7 + 1

end Column

/-- The columns of a row. -/
abbrev Row := List Column

namespace Row

/-- The longest record that a store takes, in bytes. -/
def maxSize : Nat := 1000000000

/-- How many bytes the record of a row has. The header begins with its
own length, which takes a single byte. -/
def size (row : Row) : Nat :=
  1 + row.foldr (fun c n => c.codeLength + c.length + n) 0

/-- Whether a store takes the row. -/
def Fits (row : Row) : Prop :=
  row.size ≤ maxSize

instance (row : Row) : Decidable row.Fits :=
  inferInstanceAs (Decidable (row.size ≤ maxSize))

/-- The row of an object. -/
def ofObject (id : ObjectId) (data : List UInt8) : Row :=
  [.text id.pool.utf8ByteSize, .text id.object.utf8ByteSize, .bytes data.length]

/-- The row of an entry in an object's map. -/
def ofEntry (id : ObjectId) (p : Pair) : Row :=
  [.text id.pool.utf8ByteSize, .text id.object.utf8ByteSize, .text p.key.utf8ByteSize, .bytes p.size]

end Row

end MapBench
