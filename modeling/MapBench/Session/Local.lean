import MapBench.Session.Storage
import MapBench.Store.Disk

/-!
# `MapBench.Session.Local`: sessions with a store file

A local session has opened a store file and chosen a pool. Closing it
lets go of the store; after that every operation fails.
-/

set_option autoImplicit false

namespace MapBench

/-- A session with a store file. It has a handle for the store until
it is closed. -/
structure LocalSession where
  handle : Option Nat
  pool : String
  deriving Repr, DecidableEq

namespace LocalSession

/-- Open a store file and choose a pool. Both are made if they don't
exist. -/
def connect (path pool : String) : StateM Disk (Except SessionError LocalSession) := do
  match ← Disk.openStore path with
  | .error e => return .error (.openStore e)
  | .ok handle =>
    match ← Disk.onStore handle (Store.createPool pool) with
    | .error e => return .error (.poolOpen pool (.store e))
    | .ok () => return .ok ⟨some handle, pool⟩

/-- Run an operation of the store, unless the session is closed. -/
def run {α : Type} (s : LocalSession) (op : StoreM α) : StateM Disk (Except SessionError α) :=
  match s.handle with
  | none => return .error .closed
  | some handle => do return (← Disk.onStore handle op).mapError .store

/-- Let go of the store. -/
def close (s : LocalSession) : LocalSession :=
  { s with handle := none }

/-- The operations of the session. A prepared write is the batch
itself. -/
def storage (s : LocalSession) : StorageSession (StateM Disk) Batch where
  removeObject object := s.run (Store.removeObject ⟨s.pool, object⟩)
  writeObject object data := s.run (Store.replaceData ⟨s.pool, object⟩ data)
  prepare batch := return if s.handle.isSome then .ok batch else .error .closed
  operate object batch := s.run (Store.writeEntries ⟨s.pool, object⟩ batch)
  mapSize object := s.run (Store.mapSize ⟨s.pool, object⟩)

end LocalSession

end MapBench
