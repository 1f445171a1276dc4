import MapBench.Proofs.Store.Disk

/-!
# `MapBench.Proofs.Store.Ready`: stores with all their tables and a pool

A store that was opened has all its tables, and a session makes the
pool it works on. From then on its operations depend on nothing but
the tables.

* `Tables.IsReady`: all tables are there, and so is the pool.
* `Store.IsUniform`: on ready stores with the same tables, an operation
  ends in the same way and leaves the same tables, ready again.
* `LocalSession.isReady_of_connect`: a session with a store file begins
  with a store that is ready.
-/

set_option autoImplicit false

namespace MapBench

open Std

variable {α : Type}

/-- All tables are there, and so is the pool. That is how a session finds
its store. -/
def Tables.IsReady (t : Tables) (pool : String) : Prop :=
  ∃ ps os es, t = ⟨some ps, some os, some es⟩ ∧ pool ∈ ps

/-- A store that is ready has the pool, so no operation fails for want of
it. -/
theorem Tables.IsReady.hasPool {t : Tables} {pool : String} (h : t.IsReady pool) :
    t.HasPool pool := by
  obtain ⟨ps, os, es, rfl, hpool⟩ := h
  exact ⟨ps, rfl, hpool⟩

namespace Store

/-- On ready stores with the same tables, the operation ends in the same
way and leaves the same tables, ready again. What a connection has
prepared makes no difference. -/
def IsUniform (pool : String) (op : StoreM α) : Prop :=
  ∀ c c' : Connection, c.tables = c'.tables → c.tables.IsReady pool →
    (op.run c).1 = (op.run c').1 ∧ (op.run c).2.tables = (op.run c').2.tables ∧
      (op.run c).2.tables.IsReady pool

variable (pool : String) (id : ObjectId)

/-- Replacing data depends on nothing but the tables of a ready store. -/
theorem isUniform_replaceData (data : List UInt8) : IsUniform pool (replaceData id data) := by
  intro c c' htables ⟨ps, os, es, h, hpool⟩
  have h' : c'.tables = ⟨some ps, some os, some es⟩ := htables ▸ h
  rw [run_replaceData data h, run_replaceData data h']
  split
  · split
    · exact ⟨rfl, rfl, ps, _, es, rfl, hpool⟩
    · exact ⟨rfl, htables, ps, os, es, h, hpool⟩
  · exact ⟨rfl, htables, ps, os, es, h, hpool⟩

/-- So does removing an object. It doesn't matter whether the object is
there. -/
theorem isUniform_removeObject : IsUniform pool (removeObject id) := by
  intro c c' htables ⟨ps, os, es, h, hpool⟩
  have h' : c'.tables = ⟨some ps, some os, some es⟩ := htables ▸ h
  rw [run_removeObject h, run_removeObject h']
  split
  · exact ⟨rfl, rfl, ps, _, _, rfl, hpool⟩
  · exact ⟨rfl, htables, ps, os, es, h, hpool⟩

/-- So does writing a batch: whether the statement is prepared matters only
where the table is missing. -/
theorem isUniform_writeEntries (batch : Batch) : IsUniform pool (writeEntries id batch) := by
  intro c c' htables ⟨ps, os, es, h, hpool⟩
  have h' : c'.tables = ⟨some ps, some os, some es⟩ := htables ▸ h
  rw [run_writeEntries batch h, run_writeEntries batch h']
  split
  · split
    · exact ⟨rfl, htables, ps, os, es, h, hpool⟩
    · exact ⟨rfl, rfl, ps, _, _, rfl, hpool⟩
  · exact ⟨rfl, htables, ps, os, es, h, hpool⟩

/-- So does counting, which doesn't prepare anything. -/
theorem isUniform_mapSize : IsUniform pool (mapSize id) := by
  intro c c' htables ⟨ps, os, es, h, hpool⟩
  have h' : c'.tables = ⟨some ps, some os, some es⟩ := htables ▸ h
  rw [run_mapSize h, run_mapSize h']
  exact ⟨rfl, htables, ps, os, es, h, hpool⟩

end Store

/-! ### Opening a store -/

namespace Disk

/-- Whoever opens a store finds all its tables, those that were there and
those that were made. -/
theorem tables_of_openStore {path : String} {d d' : Disk} {handle : Nat} {c : Connection}
    (hopen : (openStore path).run d = (.ok handle, d')) (h : d'.connection? handle = some c) :
    ∃ t : Tables, c.tables = t.complete := by
  obtain ⟨e, hrun⟩ | ⟨n, tree, stores, hrun, hstores⟩ := openStore_cases path d
  · rw [hrun] at hopen
    cases hopen
  · rw [hrun] at hopen
    cases hopen
    obtain ⟨k, hhandle, htables⟩ := connection?_eq_some_iff.mp h
    rw [Array.getElem?_push_size, Option.some.injEq, OpenStore.mk.injEq] at hhandle
    obtain ⟨rfl, -⟩ := hhandle
    -- The store is new, or it was completed.
    rcases hstores with ⟨rfl, rfl⟩ | rfl
    · rw [Array.getElem?_push_size, Option.some.injEq] at htables
      exact ⟨.blank, htables.symm⟩
    · rw [Array.getElem?_modify, if_pos rfl] at htables
      obtain ⟨t, -, hcomplete⟩ := Option.map_eq_some_iff.mp htables
      exact ⟨t, hcomplete.symm⟩

end Disk

/-- Choose a pool of an open store, as the second half of a connect
does. -/
def LocalSession.choosePool (handle : Nat) (pool : String) :
    StateM Disk (Except SessionError LocalSession) := do
  match ← Disk.onStore handle (Store.createPool pool) with
  | .error e => return .error (.poolOpen pool (.store e))
  | .ok () => return .ok ⟨some handle, pool⟩

/-- A session with a store file begins with a store that has all its
tables and the pool. -/
theorem LocalSession.isReady_of_connect {path pool : String} {d d' : Disk} {l : LocalSession}
    (h : (LocalSession.connect path pool).run d = (.ok l, d')) :
    ∃ handle c, l = ⟨some handle, pool⟩ ∧ d'.connection? handle = some c ∧
      c.tables.IsReady pool := by
  rw [connect, StateT.run_bind] at h
  rcases hopen : (Disk.openStore path).run d with ⟨e | handle, d₁⟩
  · rw [hopen] at h
    cases h
  · rw [hopen] at h
    change (choosePool handle pool).run d₁ = (.ok l, d') at h
    rw [choosePool, StateT.run_bind] at h
    rcases hmade : (Disk.onStore handle (Store.createPool pool)).run d₁ with ⟨e | _, d₂⟩
    · rw [hmade] at h
      cases h
    · rw [hmade] at h
      cases h
      cases hc : d₁.connection? handle with
      | none =>
        -- Nothing works on a handle without a store.
        simp only [Disk.onStore, StateT.run, hc] at hmade
        cases hmade
      | some c =>
        obtain ⟨t, ht⟩ := Disk.tables_of_openStore hopen hc
        rw [Disk.run_onStore hc, Store.createPool, Store.run_insertPool, ht] at hmade
        obtain ⟨-, rfl⟩ := Prod.mk.inj hmade
        refine ⟨handle, _, rfl, Disk.connection?_putBack hc _, _, _, _, rfl, ?_⟩
        exact ExtTreeSet.mem_insert_self

end MapBench
