import Std.Data.ExtTreeMap
import Std.Data.ExtTreeSet

/-!
# `MapBench.Store.Tables`: what a store file holds

A store file has three tables: the pools, the objects of each pool
with their data, and the entries of each object's map. A table is a
set of rows in which no two have the same key columns, so it is a
finite map from those columns to the rest of the row. Two stores are
equal when they have the same rows.

A table may be missing, as when another program has dropped it. That
is not the same as a table without rows.
-/

set_option autoImplicit false

namespace MapBench

/-- An object: its pool, and its name there. -/
structure ObjectId where
  pool : String
  object : String
  deriving Repr, DecidableEq

namespace ObjectId

/-- Pools decide, then names. -/
def order : ObjectId → ObjectId → Ordering :=
  compareLex (compareOn pool) (compareOn object)

instance : Ord ObjectId := ⟨order⟩

instance : Std.TransOrd ObjectId :=
  inferInstanceAs (Std.TransCmp (compareLex (compareOn pool) (compareOn object)))

instance : Std.LawfulEqOrd ObjectId where
  eq_of_compare {a b} h := by
    change compareLex (compareOn pool) (compareOn object) a b = .eq at h
    simp only [compareLex_eq_eq, compareOn, Std.compare_eq_iff_eq] at h
    cases a
    cases b
    simp_all

end ObjectId

/-- A map entry: the object whose map it is in, and its key. -/
structure EntryId where
  target : ObjectId
  key : String
  deriving Repr, DecidableEq

namespace EntryId

/-- Objects decide, then keys. -/
def order : EntryId → EntryId → Ordering :=
  compareLex (compareOn target) (compareOn key)

instance : Ord EntryId := ⟨order⟩

instance : Std.TransOrd EntryId :=
  inferInstanceAs (Std.TransCmp (compareLex (compareOn target) (compareOn key)))

instance : Std.LawfulEqOrd EntryId where
  eq_of_compare {a b} h := by
    change compareLex (compareOn target) (compareOn key) a b = .eq at h
    simp only [compareLex_eq_eq, compareOn, Std.compare_eq_iff_eq] at h
    cases a
    cases b
    simp_all

end EntryId

/-- The tables of a store. -/
inductive Table
  | pools
  | objects
  | entries
  deriving Repr, DecidableEq

/-- The name of a table. -/
def Table.name : Table → String
  | pools => "pools"
  | objects => "objects"
  | entries => "omap"

/-- The table of a name. -/
def Table.ofName? (name : String) : Option Table :=
  [pools, objects, entries].find? fun t => t.name == name

/-- What a store file holds; `none` is a missing table. -/
structure Tables where
  pools : Option (Std.ExtTreeSet String)
  objects : Option (Std.ExtTreeMap ObjectId (List UInt8))
  entries : Option (Std.ExtTreeMap EntryId (List UInt8))

namespace Tables

/-- A file without tables. -/
def blank : Tables := ⟨.none, .none, .none⟩

/-- Make the tables that are missing, without rows. -/
def complete (t : Tables) : Tables :=
  ⟨some (t.pools.getD ∅), some (t.objects.getD ∅), some (t.entries.getD ∅)⟩

/-- A new store: every table, and no rows. -/
def empty : Tables := Tables.blank.complete

/-- Remove a table with all its rows. -/
def drop (t : Tables) : Table → Tables
  | .pools => { t with pools := .none }
  | .objects => { t with objects := .none }
  | .entries => { t with entries := .none }

end Tables

end MapBench
