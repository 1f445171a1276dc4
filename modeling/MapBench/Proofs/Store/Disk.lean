import MapBench.Proofs.Store.Operations
import MapBench.Session.Local

/-!
# `MapBench.Proofs.Store.Disk`: working on an open store

Whoever has a handle sees the tables behind it. An operation on them
changes nothing else on the disk, and a second operation finds what
the first one left.

* `Disk.openStore_cases`: what opening a store can come to.
* `Disk.connection?_putBack`, `Disk.putBack_putBack`: what is put back
  is there, and only the last of it counts.
* `Disk.storeOf?`: the store that a handle stands for.
  `Disk.getElem?_stores_putBack`: an operation changes no other one.
* `LocalSession.run_of_connection?`: an operation of a session is the
  operation on the tables behind its handle.
-/

set_option autoImplicit false

namespace MapBench

namespace Disk

variable {d : Disk} {handle : Nat} {c : Connection}

/-- A store that can be opened is new, or it gets the tables that it
lacks; if none can be opened, nothing has happened. -/
theorem openStore_cases (path : String) (d : Disk) :
    (∃ e, (openStore path).run d = (.error e, d)) ∨
      ∃ n tree stores, (openStore path).run d =
          (.ok d.handles.size, ⟨tree, stores, d.handles.push ⟨n, false⟩⟩) ∧
        (n = d.stores.size ∧ stores = d.stores.push .empty ∨
          stores = d.stores.modify n Tables.complete) := by
  have hnew (tree : FileTree) : ∃ n tree' stores,
      ((.ok d.handles.size, ⟨tree, d.stores.push .empty, d.handles.push ⟨d.stores.size, false⟩⟩) :
        Except StoreError Nat × Disk) =
          (.ok d.handles.size, ⟨tree', stores, d.handles.push ⟨n, false⟩⟩) ∧
        (n = d.stores.size ∧ stores = d.stores.push .empty ∨
          stores = d.stores.modify n Tables.complete) :=
    ⟨_, tree, _, rfl, .inl ⟨rfl, rfl⟩⟩
  simp only [StateT.run, openStore]
  split
  · exact .inr (hnew _)
  · split
    · exact .inl ⟨_, rfl⟩
    · split
      · exact .inr (hnew _)
      · exact .inr (hnew _)
      · exact .inr ⟨_, d.tree, _, rfl, .inr rfl⟩
      · exact .inl ⟨_, rfl⟩
      · exact .inl ⟨_, rfl⟩
      · exact .inl ⟨_, rfl⟩
      · exact .inl ⟨_, rfl⟩

/-- A store whose file has no place on the disk isn't opened. -/
theorem run_openStore_of_locate_none {path : String} (hprivate : isPrivate path = false)
    (hlocate : locate d.tree path = none) :
    (openStore path).run d = (.error (.cannotOpen path), d) := by
  simp only [openStore, StateT.run, hprivate, Bool.false_eq_true, if_false, hlocate]

/-- What was put back is there. -/
theorem connection?_putBack (h : d.connection? handle = some c) (c' : Connection) :
    (d.putBack handle c').connection? handle = some c' := by
  simp only [connection?, Option.bind_eq_bind, Option.bind_eq_some_iff] at h
  obtain ⟨o, ho, t, ht, -⟩ := h
  have hhandle : (d.putBack handle c').handles[handle]? = some ⟨o.store, c'.entryReady⟩ := by
    simp [putBack, ho, Array.getElem?_modify]
  have hstore : (d.putBack handle c').stores[o.store]? = some c'.tables := by
    simp [putBack, ho, Array.getElem?_modify, ht]
  simp [connection?, hhandle, hstore]

/-- Of two things that were put back, the last one counts. -/
theorem putBack_putBack (d : Disk) (handle : Nat) (c c' : Connection) :
    (d.putBack handle c).putBack handle c' = d.putBack handle c' := by
  cases ho : d.handles[handle]? with
  | none => simp only [putBack, ho]
  | some o =>
    have hhandle : (d.putBack handle c).handles[handle]? = some ⟨o.store, c.entryReady⟩ := by
      simp [putBack, ho, Array.getElem?_modify]
    have hstores : ((d.stores.modify o.store fun _ => c.tables).modify o.store fun _ => c'.tables) =
        d.stores.modify o.store fun _ => c'.tables := by
      refine Array.ext_getElem? fun i => ?_
      simp only [Array.getElem?_modify]
      split <;> cases d.stores[i]? <;> simp_all
    have hhandles : ((d.handles.modify handle fun o => { o with entryReady := c.entryReady }).modify
        handle fun o => { o with entryReady := c'.entryReady }) =
        d.handles.modify handle fun o => { o with entryReady := c'.entryReady } := by
      refine Array.ext_getElem? fun i => ?_
      simp only [Array.getElem?_modify]
      split <;> cases d.handles[i]? <;> simp_all
    rw [putBack, hhandle]
    simp only [putBack, ho, hstores, hhandles]

/-- A connection is what a handle remembers and the tables of the store that
it stands for. -/
theorem connection?_eq_some_iff : d.connection? handle = some c ↔
    ∃ n, d.handles[handle]? = some ⟨n, c.entryReady⟩ ∧ d.stores[n]? = some c.tables := by
  simp only [connection?, Option.bind_eq_bind, Option.bind_eq_some_iff]
  constructor
  · rintro ⟨⟨n, ready⟩, ho, t, ht, hc⟩
    obtain rfl := Option.some.inj hc
    exact ⟨n, ho, ht⟩
  · rintro ⟨n, ho, ht⟩
    exact ⟨_, ho, _, ht, rfl⟩

/-- Putting back what is there does nothing. -/
theorem putBack_self (h : d.connection? handle = some c) : d.putBack handle c = d := by
  obtain ⟨n, ho, ht⟩ := connection?_eq_some_iff.mp h
  have hstores : (d.stores.modify n fun _ => c.tables) = d.stores := by
    refine Array.ext_getElem? fun i => ?_
    rw [Array.getElem?_modify]
    split
    next heq => rw [← heq, ht, Option.map_some]
    next => rfl
  have hhandles : (d.handles.modify handle fun o => { o with entryReady := c.entryReady }) =
      d.handles := by
    refine Array.ext_getElem? fun i => ?_
    rw [Array.getElem?_modify]
    split
    next heq => rw [← heq, ho, Option.map_some]
    next => rfl
  simp only [putBack, ho, hstores, hhandles]

/-- The number of the store that a handle stands for. It never changes,
while the tables behind it do. -/
def storeOf? (d : Disk) (handle : Nat) : Option Nat :=
  (d.handles[handle]?).map OpenStore.store

/-- A connection has a store, and that store has its tables. -/
theorem storeOf?_of_connection? (h : d.connection? handle = some c) :
    ∃ n, d.storeOf? handle = some n ∧ d.stores[n]? = some c.tables := by
  obtain ⟨n, ho, ht⟩ := connection?_eq_some_iff.mp h
  exact ⟨n, by rw [storeOf?, ho, Option.map_some], ht⟩

/-- A handle of a store that is there has a connection. -/
theorem exists_connection? {n : Nat} {t : Tables} (hn : d.storeOf? handle = some n)
    (ht : d.stores[n]? = some t) : ∃ ready, d.connection? handle = some ⟨t, ready⟩ := by
  obtain ⟨o, ho, rfl⟩ := Option.map_eq_some_iff.mp hn
  exact ⟨o.entryReady, connection?_eq_some_iff.mpr ⟨o.store, ho, ht⟩⟩

/-- Working on a store doesn't move any files. -/
@[simp] theorem tree_putBack (d : Disk) (handle : Nat) (c : Connection) :
    (d.putBack handle c).tree = d.tree := by
  rw [putBack]
  cases d.handles[handle]? <;> rfl

/-- Handles stand for the same stores after an operation. -/
@[simp] theorem storeOf?_putBack (d : Disk) (handle : Nat) (c : Connection) (other : Nat) :
    (d.putBack handle c).storeOf? other = d.storeOf? other := by
  rw [storeOf?, storeOf?, putBack]
  cases d.handles[handle]? with
  | none => rfl
  | some o =>
    simp only [Array.getElem?_modify]
    split
    · rw [Option.map_map]
      rfl
    · rfl

/-- An operation changes the store that its handle stands for, and no
other one. -/
theorem getElem?_stores_putBack {n : Nat} (hn : d.storeOf? handle = some n) (c : Connection) (k : Nat) :
    (d.putBack handle c).stores[k]? =
      if n = k then (d.stores[k]?).map fun _ => c.tables else d.stores[k]? := by
  obtain ⟨o, ho, rfl⟩ := Option.map_eq_some_iff.mp hn
  simp only [putBack, ho, Array.getElem?_modify]

/-- An operation on an open store is the operation on its tables. -/
theorem run_onStore {α : Type} (h : d.connection? handle = some c) (op : StoreM α) :
    (onStore handle op).run d = ((op.run c).1, d.putBack handle (op.run c).2) := by
  simp only [onStore, StateT.run, h]
  rfl

/-- On a handle without a store nothing can be done. -/
theorem run_onStore_of_none {α : Type} (h : d.connection? handle = none) (op : StoreM α) :
    (onStore handle op).run d = (.error (.statement .notAStore), d) := by
  simp only [onStore, StateT.run, h]

end Disk

/-- An operation of a session is the operation on the tables behind its
handle. -/
theorem LocalSession.run_of_connection? {α : Type} {d : Disk} {handle : Nat} {c : Connection}
    (h : d.connection? handle = some c) (pool : String) (op : StoreM α) :
    ((LocalSession.mk (some handle) pool).run op).run d =
      ((op.run c).1.mapError .store, d.putBack handle (op.run c).2) := by
  rw [LocalSession.run, StateT.run_bind, Disk.run_onStore h]
  rfl

end MapBench
