import MapBench.Batch.Basic
import MapBench.Session.Error

/-!
# `MapBench.Session.Storage`: what a benchmark needs from a store

A session is used through five operations. They run in a monad `m`,
which holds whatever the session works on, and a write is prepared
and applied in two steps with a value of type `ω` in between.
-/

set_option autoImplicit false

namespace MapBench

/-- The operations of a session. -/
structure StorageSession (m : Type → Type) (ω : Type) where
  /-- Remove an object and its map. -/
  removeObject : String → m (Except SessionError Unit)
  /-- Replace an object's data. -/
  writeObject : String → List UInt8 → m (Except SessionError Unit)
  /-- Prepare the write of a batch. -/
  prepare : Batch → m (Except SessionError ω)
  /-- Apply a prepared write to an object's map: all of it, or
  nothing. -/
  operate : String → ω → m (Except SessionError Unit)
  /-- The number of entries in an object's map. -/
  mapSize : String → m (Except SessionError Nat)

namespace StorageSession

variable {m n : Type → Type} {ω : Type}

/-- Prepare the write of a batch and apply it. -/
def writeBatch [Monad m] (s : StorageSession m ω) (object : String) (batch : Batch) :
    m (Except SessionError Unit) := do
  match ← s.prepare batch with
  | .ok op => s.operate object op
  | .error e => return .error e

/-- The same session in other surroundings. -/
def lift (into : {α : Type} → m α → n α) (s : StorageSession m ω) : StorageSession n ω where
  removeObject object := into (s.removeObject object)
  writeObject object data := into (s.writeObject object data)
  prepare batch := into (s.prepare batch)
  operate object op := into (s.operate object op)
  mapSize object := into (s.mapSize object)

/-- The same session for writes of several kinds. It wraps its own
kind, and doesn't take another one. -/
def widen [Monad m] {ω' : Type} (wrap : ω → ω') (own? : ω' → Option ω)
    (s : StorageSession m ω) : StorageSession m ω' where
  removeObject := s.removeObject
  writeObject := s.writeObject
  prepare batch := do return (← s.prepare batch).map wrap
  operate object op :=
    match own? op with
    | some op => s.operate object op
    | none => return .error .foreignWriteOp
  mapSize := s.mapSize

end StorageSession

end MapBench
