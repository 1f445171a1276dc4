import MapBench.Store.Error
import MapBench.Store.Row

/-!
# `MapBench.Store.Statement`: single statements, and transactions

A statement reads or changes one table, and fails if that table is
missing, or if it would write a row that is too long. What several
statements did before one of them failed stays done, unless they run in
a transaction: that puts the tables back as they were.

The statement that writes entries is prepared before it is used. A
connection keeps it after that, and preparing it again succeeds even
if the table has been dropped in the meantime; only its use fails.

* `StoreM`: a computation on an open store that may fail. A failure
  keeps the tables as they are at that moment.
* `transaction`: all of a computation's changes, or none.
-/

set_option autoImplicit false

namespace MapBench

/-- A store that someone has opened. Others may have it open, too,
and change its tables. -/
structure Connection where
  tables : Tables
  /-- Whether the statement that writes entries has been prepared. -/
  entryReady : Bool

namespace Connection

/-- A store that has just been opened. -/
def fresh (tables : Tables) : Connection := ⟨tables, false⟩

/-- The same store with other tables. -/
def withTables (c : Connection) (tables : Tables) : Connection :=
  { c with tables }

end Connection

/-- A computation on an open store that may fail. -/
abbrev StoreM := ExceptT StoreError (StateM Connection)

namespace Store

/-- The tables as they are. -/
def getTables : StoreM Tables := do
  return (← getThe Connection).tables

/-- Change the tables. -/
def modifyTables (change : Tables → Tables) : StoreM Unit :=
  modifyThe Connection fun c => c.withTables (change c.tables)

/-- Run a computation; if it fails, put the tables back. -/
def transaction {α : Type} (body : StoreM α) : StoreM α := do
  let before ← getTables
  tryCatch body fun e => do
    modifyTables fun _ => before
    throw e

/-- Rows of a table that has to be there. -/
def rows {ρ : Type} (table : Table) (select : Tables → Option ρ) : StoreM ρ := do
  match select (← getTables) with
  | some r => return r
  | none => throw (.statement (.noSuchTable table))

/-- Fail unless a row can be written. -/
def needFit (row : Row) : StoreM Unit := do
  if !row.Fits then throw (.statement .tooBig)

/-- Is there a row for the pool? -/
def selectPool (pool : String) : StoreM Bool := do
  return (← rows .pools Tables.pools).contains pool

/-- Add a row for the pool, unless there is one. -/
def insertPool (pool : String) : StoreM Unit := do
  let pools ← rows .pools Tables.pools
  modifyTables fun t => { t with pools := some (pools.insert pool) }

/-- Write an object's row, over the one that may be there. -/
def replaceObject (id : ObjectId) (data : List UInt8) : StoreM Unit := do
  let objects ← rows .objects Tables.objects
  needFit (.ofObject id data)
  modifyTables fun t => { t with objects := some (objects.insert id data) }

/-- Write an object's row, unless there is one. -/
def insertObject (id : ObjectId) (data : List UInt8) : StoreM Unit := do
  let objects ← rows .objects Tables.objects
  needFit (.ofObject id data)
  modifyTables fun t => { t with objects := some (objects.insertIfNew id data) }

/-- Delete an object's row, if there is one. -/
def deleteObject (id : ObjectId) : StoreM Unit := do
  let objects ← rows .objects Tables.objects
  modifyTables fun t => { t with objects := some (objects.erase id) }

/-- Delete all rows of an object's map. -/
def deleteEntries (id : ObjectId) : StoreM Unit := do
  let entries ← rows .entries Tables.entries
  modifyTables fun t => { t with entries := some (entries.filter fun e _ => e.target != id) }

/-- Prepare the statement that writes entries, unless that has been
done. -/
def prepareEntries : StoreM Unit := do
  if !(← getThe Connection).entryReady then
    -- Preparing a statement needs its table.
    let _ ← rows .entries Tables.entries
    modifyThe Connection fun c => { c with entryReady := true }

/-- Write an entry's row, over the one that may be there. An empty
key is refused. -/
def replaceEntry (id : ObjectId) (p : Pair) : StoreM Unit := do
  -- The statement is prepared, so it gets its values before it looks at the table.
  needFit (.ofEntry id p)
  let entries ← rows .entries Tables.entries
  if p.key = "" then throw (.statement .emptyKey)
  modifyTables fun t => { t with entries := some (entries.insert ⟨id, p.key⟩ p.value) }

/-- How many rows an object's map has, as a word of 64 bits. -/
def countEntries (id : ObjectId) : StoreM Nat := do
  return ((← rows .entries Tables.entries).filter fun e _ => e.target == id).size.toUInt64.toNat

end Store

end MapBench
