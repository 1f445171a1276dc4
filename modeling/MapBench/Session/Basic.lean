import MapBench.Session.Local
import MapBench.Session.Remote

/-!
# `MapBench.Session.Basic`: sessions of either kind

A session is local or remote, and so is a write that it prepared. A
write can only be applied by a session of the kind that prepared it.

* `Session.connect`: a session with the store at a place.
* `Session.storage`: its operations.
* `Session.close`: closing it, which may happen many times.

Sessions run wherever there are store files and a network
(`StoreAccess`). One such place is a `World`, which is a value.
-/

set_option autoImplicit false

namespace MapBench

/-- Where a store is. -/
inductive StoreLocation
  /-- Behind the server at an address. -/
  | remote (url : String)
  /-- In a file. -/
  | onDisk (path : String)
  deriving Repr, DecidableEq

/-- How stores are reached from a place. -/
structure StoreAccess (m : Type → Type) where
  /-- Act on the disk. -/
  onDisk : {α : Type} → StateM Disk α → m α
  /-- Send a request. -/
  net : Network m

/-- A session of either kind. -/
inductive Session
  | onDisk (s : LocalSession)
  | remote (s : RemoteSession)
  deriving Repr, DecidableEq

/-- A write that a session has prepared. -/
inductive WriteOp
  /-- The pairs themselves. -/
  | pairs (batch : Batch)
  /-- The body of a request. -/
  | body (bytes : List UInt8)
  deriving Repr, DecidableEq

namespace WriteOp

/-- The pairs of a write for a store file. -/
def pairs? : WriteOp → Option Batch
  | pairs batch => some batch
  | body _ => none

/-- The body of a write for a server. -/
def body? : WriteOp → Option (List UInt8)
  | pairs _ => none
  | body bytes => some bytes

end WriteOp

namespace Session

variable {m : Type → Type} [Monad m] (access : StoreAccess m)

/-- Open a session with a pool of the store at a place. -/
def connect (location : StoreLocation) (pool : String) : m (Except SessionError Session) := do
  match location with
  | .onDisk path => return (← access.onDisk (LocalSession.connect path pool)).map .onDisk
  | .remote url => return (← RemoteSession.connect access.net url pool).map .remote

/-- Close the session. -/
def close : Session → Session
  | onDisk s => .onDisk s.close
  | remote s => .remote s.close

/-- The operations of the session. -/
def storage : Session → StorageSession m WriteOp
  | onDisk s => (s.storage.lift access.onDisk).widen .pairs WriteOp.pairs?
  | remote s => (s.storage access.net).widen .body WriteOp.body?

end Session

/-- Store files, and a network in some state. -/
structure World (ω : Type) where
  disk : Disk
  net : ω

namespace World

variable {ω α : Type}

/-- Act on the disk. -/
def onDisk (act : StateM Disk α) : StateM (World ω) α := fun w =>
  let (a, disk) := act w.disk
  (a, { w with disk })

/-- Act on the network. -/
def onNet (act : StateM ω α) : StateM (World ω) α := fun w =>
  let (a, net) := act w.net
  (a, { w with net })

/-- How stores are reached in a world with this network. -/
def access (net : Network (StateM ω)) : StoreAccess (StateM (World ω)) where
  onDisk := onDisk
  net := ⟨net.readHost, fun request => onNet (net.carry request)⟩

end World

end MapBench
