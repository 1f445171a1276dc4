import MapBench.Proofs.Store.Operations

/-!
# `MapBench.Proofs.Store.Atomic`: an operation as a whole or not at all

An operation on an object may fail at any of its statements: the pool
isn't there, a table is missing, or a pair anywhere in a batch has an empty
key or a value that is too long. What the statements before that did is
taken back.

* `Tables.Wrote`: the rows after a batch was written. `Tables.HasEntry.wrote`:
  none is lost.
* `Store.AllOrNothing`: when an operation on a pool succeeds, when it
  fails and how, and what the tables are after either.
* `Store.CannotWrite`: which batches a store with the pool refuses.
* `Store.allOrNothing_of_body`: what has to be known of the statements
  behind the look for the pool.
* `Store.allOrNothing_operations`: the three operations on an object, on
  any store.
* `Store.writeEntries_empty_and_tooBig`: a store without the table of maps
  that takes a batch, and one with all tables that refuses one.
-/

set_option autoImplicit false

namespace MapBench

open Std

/-- A batch was written into the map of an object. It says of each row what
it is, so nothing else can have changed. -/
structure Tables.Wrote (id : ObjectId) (batch : Batch) (t t' : Tables) : Prop where
  pools : t'.pools = t.pools
  /-- The object is there, and keeps the data that it had. -/
  objects : ∃ os os' : Objects, t.objects = some os ∧ t'.objects = some os' ∧
    ∀ o : ObjectId, os'[o]? = if o = id then some (os[id]?.getD []) else os[o]?
  /-- Every key of the batch has its last value. Without the table there
  were no pairs to write. -/
  entries : (∃ es es' : Entries, t.entries = some es ∧ t'.entries = some es' ∧
      ∀ e : EntryId, es'[e]? =
        if e.target = id then (Entries.lastValue e.key batch.pairs).or es[e]? else es[e]?) ∨
    batch.pairs = [] ∧ t.entries = none ∧ t'.entries = none

namespace Tables

variable {id : ObjectId} {batch : Batch} {t t' : Tables} {e : EntryId}

/-- The keys of a batch that was written are there. If there is no table for
them, the batch has none. -/
theorem Wrote.hasEntry (h : t.Wrote id batch t') {key : String} (hkey : key ∈ batch.keys) :
    t'.HasEntry ⟨id, key⟩ := by
  rcases h.entries with ⟨es, es', -, hes', hrows⟩ | ⟨hpairs, -⟩
  · obtain ⟨value, hvalue⟩ := Entries.exists_lastValue hkey
    have hrow : es'[(⟨id, key⟩ : EntryId)]? = some value := by
      rw [hrows, if_pos rfl, hvalue, Option.some_or]
    exact ⟨es', hes', ExtTreeMap.mem_iff_isSome_getElem?.mpr (by rw [hrow]; rfl)⟩
  · simp [Batch.keys, hpairs] at hkey

/-- A batch that was written decides about its keys, and no other key
changes. -/
theorem Wrote.valueOf (h : t.Wrote id batch t') (other : ObjectId) (key : String) :
    t'.valueOf other key =
      if other = id then (Entries.lastValue key batch.pairs).or (t.valueOf other key)
      else t.valueOf other key := by
  rcases h.entries with ⟨es, es', hes, hes', hrows⟩ | ⟨hpairs, hnone, hnone'⟩
  · rw [Tables.valueOf, Tables.valueOf, hes, hes']
    exact hrows ⟨other, key⟩
  · rw [Tables.valueOf, Tables.valueOf, hnone, hnone', hpairs]
    simp [Entries.lastValue]

/-- No entry is lost when a batch is written, into whatever map. -/
theorem HasEntry.wrote (he : t.HasEntry e) (h : t.Wrote id batch t') : t'.HasEntry e := by
  obtain ⟨es, hes, hmem⟩ := he
  rcases h.entries with ⟨es₁, es', hes₁, hes', hrows⟩ | ⟨-, hnone, -⟩
  · obtain rfl := Option.some.inj (hes.symm.trans hes₁)
    refine ⟨es', hes', ?_⟩
    rw [ExtTreeMap.mem_iff_isSome_getElem?] at hmem ⊢
    rw [hrows]
    split
    · cases Entries.lastValue e.key batch.pairs with
      | none => rwa [Option.none_or]
      | some value => rfl
    · exact hmem
  · simp [hes] at hnone

/-- Nor is it when another object is left out. -/
theorem HasEntry.without (he : t.HasEntry e) (hother : e.target ≠ id) :
    (t.without id).HasEntry e := by
  obtain ⟨es, hes, hmem⟩ := he
  refine ⟨Entries.notOf id es, by rw [Tables.without, hes]; rfl, ?_⟩
  rw [ExtTreeMap.mem_iff_isSome_getElem?] at hmem ⊢
  rwa [Entries.getElem?_notOf, if_neg hother]

end Tables

namespace Store

/-- The rows after a batch are what they should be, in a store that has the
tables for it. -/
theorem wrote_withEntries {id : ObjectId} {batch : Batch} {t : Tables} {os : Objects}
    (hobjects : t.objects = some os) (hentries : t.entries ≠ none ∨ batch.pairs = []) :
    t.Wrote id batch (t.withEntries id batch) where
  pools := rfl
  objects := by
    refine ⟨os, _, hobjects, by rw [Tables.withEntries, hobjects]; rfl, Objects.getElem?_insertIfNew id os⟩
  entries := by
    cases hes : t.entries with
    | some es =>
      refine .inl ⟨es, _, rfl, by rw [Tables.withEntries, hes]; rfl, Entries.getElem?_write id es batch.pairs⟩
    | none =>
      refine .inr ⟨hentries.resolve_left fun hne => hne hes, rfl, ?_⟩
      rw [Tables.withEntries, hes]
      rfl

/-- An operation on a pool succeeds exactly if the pool is there and
nothing stands in the way of its statements. It fails for want of the
pool exactly if there is a table of pools without it; in all other cases
a statement fails. A success has the whole effect, a failure none. -/
structure AllOrNothing {α : Type} (op : StoreM α) (pool : String) (obstacle : Prop)
    (effect : Tables → Prop) (c : Connection) : Prop where
  ok_iff : (∃ a, (op.run c).1 = .ok a) ↔ c.tables.HasPool pool ∧ ¬ obstacle
  noSuchPool_iff : (op.run c).1 = .error (.noSuchPool pool) ↔
    c.tables.pools ≠ none ∧ ¬ c.tables.HasPool pool
  statement_iff : (∃ cause, (op.run c).1 = .error (.statement cause)) ↔
    c.tables.pools = none ∨ c.tables.HasPool pool ∧ obstacle
  effect_of_ok : ∀ a, (op.run c).1 = .ok a → effect (op.run c).2.tables
  tables_of_error : ∀ e, (op.run c).1 = .error e → (op.run c).2.tables = c.tables

/-- What a store with the pool refuses to write: everything without the
table of objects, pairs without the table of maps, a batch with an empty
key, and one that needs a row that is too long. An empty batch doesn't need
the table of maps if the connection has prepared the statement that writes
to it. -/
def CannotWrite (id : ObjectId) (batch : Batch) (c : Connection) : Prop :=
  c.tables.objects = none ∨
    c.tables.entries = none ∧ (c.entryReady = false ∨ batch.pairs ≠ []) ∨
    "" ∈ batch.keys ∨ ¬ batch.Fits id

variable {α : Type} {c : Connection} {id : ObjectId}

/-- A batch is written exactly if none of the obstacles is there. So the
reason for a refusal may be left open. -/
theorem refusal?_eq_none_iff {batch : Batch} :
    c.refusal? id batch = none ↔ ¬ CannotWrite id batch c := by
  rw [Connection.refusal?, CannotWrite]
  cases c.tables.objects with
  | none => simp
  | some os =>
    cases c.tables.entries with
    | some es => simp [Batch.refusal?_eq_none_iff, and_comm]
    | none =>
      -- Without pairs all that has to fit is the row of the object.
      cases hpairs : batch.pairs with
      | nil => by_cases hfits : (Row.ofObject id []).Fits <;> simp [Batch.Fits, Batch.keys, hpairs, hfits]
      | cons p rest =>
        by_cases hfits : (Row.ofObject id []).Fits <;> cases hready : c.entryReady <;> simp [hfits]

/-- Behind the look for the pool, it is enough that the statements
succeed with their whole effect or fail without any. -/
theorem allOrNothing_of_body (body : StoreM α) {pool : String} {obstacle : Prop}
    {effect : Tables → Prop}
    (hok : ¬ obstacle → (∃ a, (body.run c).1 = .ok a) ∧ effect (body.run c).2.tables)
    (herror : obstacle → (∃ cause, (body.run c).1 = .error (.statement cause)) ∧
      (body.run c).2.tables = c.tables) :
    AllOrNothing (needPool pool >>= fun _ => body) pool obstacle effect c := by
  -- Without a table of pools nothing can be looked up. With one, the pool decides whether
  -- the body is run.
  cases hpools : c.tables.pools with
  | none =>
    have hhas : ¬ c.tables.HasPool pool := fun ⟨ps, hps, _⟩ => by simp [hpools] at hps
    have hrun : (needPool pool >>= fun _ => body).run c =
        (.error (.statement (.noSuchTable .pools)), c) := by
      rw [run_bind, run_needPool, hpools]
    constructor <;> simp [hrun, hpools, hhas]
  | some ps =>
    have hhas : c.tables.HasPool pool ↔ pool ∈ ps := Tables.hasPool_iff_mem hpools pool
    by_cases hpool : pool ∈ ps
    · have hrun : (needPool pool >>= fun _ => body).run c = body.run c := by
        rw [run_bind, run_needPool_of_hasPool (hhas.mpr hpool)]
      by_cases hob : obstacle
      · obtain ⟨⟨cause, hcause⟩, htables⟩ := herror hob
        constructor <;> simp [hrun, hpools, hhas, hpool, hob, hcause, htables]
      · obtain ⟨⟨a, hdone⟩, heffect⟩ := hok hob
        constructor <;> simp [hrun, hpools, hhas, hpool, hob, hdone, heffect]
    · have hrun : (needPool pool >>= fun _ => body).run c = (.error (.noSuchPool pool), c) := by
        rw [run_bind, run_needPool, hpools]
        simp only [if_neg hpool]
      constructor <;> simp [hrun, hpools, hhas, hpool]

/-- An operation that looks for the pool ends in one of three ways: it
succeeds, the pool is missing, or a statement fails. -/
theorem AllOrNothing.cases {op : StoreM α} {pool : String} {obstacle : Prop}
    {effect : Tables → Prop} (h : AllOrNothing op pool obstacle effect c) :
    (∃ a, (op.run c).1 = .ok a) ∨ (op.run c).1 = .error (.noSuchPool pool) ∨
      ∃ cause, (op.run c).1 = .error (.statement cause) := by
  rw [h.ok_iff, h.noSuchPool_iff, h.statement_iff]
  by_cases hpools : c.tables.pools = none
  · exact .inr (.inr (.inl hpools))
  · by_cases hhas : c.tables.HasPool pool
    · by_cases hob : obstacle
      · exact .inr (.inr (.inr ⟨hhas, hob⟩))
      · exact .inl ⟨hhas, hob⟩
    · exact .inr (.inl ⟨hpools, hhas⟩)

/-- What is made of the result changes nothing about when and how an
operation fails. -/
theorem AllOrNothing.map {β : Type} {op : StoreM α} {pool : String} {obstacle : Prop}
    {effect : Tables → Prop} (h : AllOrNothing op pool obstacle effect c) (f : α → β) :
    AllOrNothing (op >>= fun a => pure (f a)) pool obstacle effect c := by
  have hrun : (op >>= fun a => pure (f a)).run c = ((op.run c).1.map f, (op.run c).2) := by
    rw [run_bind]
    rcases op.run c with ⟨_ | _, c'⟩ <;> rfl
  have hok := h.ok_iff
  have hno := h.noSuchPool_iff
  have hstatement := h.statement_iff
  cases hresult : (op.run c).1 with
  | ok a =>
    have heffect := h.effect_of_ok a hresult
    simp only [hresult] at hok hno hstatement
    constructor <;> simp_all [Except.map]
  | error e =>
    have htables := h.tables_of_error e hresult
    simp only [hresult] at hok hno hstatement
    constructor <;> simp_all [Except.map]

/-- Replacing data needs the table of objects, and a row that fits. It is a
single statement, so there is nothing to take back. -/
theorem allOrNothing_replaceData (data : List UInt8) (id : ObjectId) (c : Connection) :
    AllOrNothing (replaceData id data) id.pool
      (c.tables.objects = none ∨ ¬ (Row.ofObject id data).Fits)
      (fun t => t = { c.tables with objects := c.tables.objects.map (·.insert id data) }) c := by
  refine allOrNothing_of_body (putObject id data) (fun hcan => ?_) fun hcannot => ?_
  · rw [not_or, not_not] at hcan
    obtain ⟨os, hos⟩ := Option.ne_none_iff_exists'.mp hcan.1
    simp [putObject, run_replaceObject, hos, hcan.2, Connection.withTables]
  · rw [putObject, run_replaceObject]
    cases hos : c.tables.objects with
    | none => simp
    | some os =>
      have hlong : ¬ (Row.ofObject id data).Fits := hcannot.resolve_left (by simp [hos])
      simp [hlong]

/-- Removing an object needs both tables that know it. The one that is
changed first isn't changed if the other is missing. -/
theorem allOrNothing_removeObject (id : ObjectId) (c : Connection) :
    AllOrNothing (removeObject id) id.pool (c.tables.objects = none ∨ c.tables.entries = none)
      (fun t => t = c.tables.without id) c := by
  refine allOrNothing_of_body (deleteAll id) (fun htables => ?_) fun htables => ?_
  · rw [not_or] at htables
    obtain ⟨os, hos⟩ := Option.ne_none_iff_exists'.mp htables.1
    obtain ⟨es, hes⟩ := Option.ne_none_iff_exists'.mp htables.2
    simp [run_deleteAll, hos, hes, Connection.withTables]
  · rw [run_deleteAll]
    cases hes : c.tables.entries with
    | none => simp
    | some es =>
      have hos : c.tables.objects = none := htables.resolve_right (by simp [hes])
      simp [hos]

/-- Writing a batch has the most ways to fail, and the object may have been
made by then. All of that is taken back. -/
theorem allOrNothing_writeEntries (batch : Batch) (id : ObjectId) (c : Connection) :
    AllOrNothing (writeEntries id batch) id.pool (CannotWrite id batch c)
      (c.tables.Wrote id batch) c := by
  refine allOrNothing_of_body (setEntries id batch) (fun hcan => ?_) fun hcannot => ?_
  · rw [run_setEntries, refusal?_eq_none_iff.mpr hcan]
    simp only [CannotWrite, not_or, not_and, ne_eq, Decidable.not_not] at hcan
    obtain ⟨hobjects, hentries, -, -⟩ := hcan
    obtain ⟨os, hos⟩ := Option.ne_none_iff_exists'.mp hobjects
    refine ⟨⟨(), rfl⟩, wrote_withEntries hos ?_⟩
    by_cases hes : c.tables.entries = none
    · exact .inr (hentries hes).2
    · exact .inl hes
  · rw [run_setEntries]
    obtain ⟨cause, hcause⟩ := Option.ne_none_iff_exists'.mp fun hnone =>
      refusal?_eq_none_iff.mp hnone hcannot
    rw [hcause]
    exact ⟨⟨cause, rfl⟩, rfl⟩

end Store

end MapBench
