import MapBench.Store.Tables

/-!
# `MapBench.Store.Error`: how a store fails

A store that can't be opened, a pool that isn't there, and a
statement that the store refuses are told apart, since callers treat
them differently: a missing pool is the client's mistake.
-/

set_option autoImplicit false

namespace MapBench

/-- Why a statement on the tables fails. -/
inductive StatementError
  /-- It names a table that is missing. -/
  | noSuchTable (table : Table)
  /-- It would give a map an entry with an empty key. -/
  | emptyKey
  /-- It would make a row that is too long. -/
  | tooBig
  /-- The file holds something else than tables. -/
  | notAStore
  deriving Repr, DecidableEq

/-- What is said about a failed statement. -/
def StatementError.message : StatementError → String
  | noSuchTable table => "no such table: " ++ table.name
  | emptyKey => "CHECK constraint failed: key <> ''"
  | tooBig => "string or blob too big"
  | notAStore => "file is not a database"

/-- Why an operation on a store fails. -/
inductive StoreError
  /-- The file can't be opened or made. -/
  | cannotOpen (file : String)
  /-- The pool doesn't exist. -/
  | noSuchPool (pool : String)
  /-- A statement failed. -/
  | statement (cause : StatementError)
  deriving Repr, DecidableEq

/-- What is said about a failed operation. -/
def StoreError.message : StoreError → String
  | cannotOpen file =>
    "failed to open object store " ++ file ++ ": unable to open database file: " ++ file
  | noSuchPool pool => "pool " ++ pool ++ " does not exist"
  | statement cause => cause.message

end MapBench
