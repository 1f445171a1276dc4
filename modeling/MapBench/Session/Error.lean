import MapBench.Api.Status
import MapBench.Session.Network
import MapBench.Store.Error

/-!
# `MapBench.Session.Error`: how a session fails
-/

set_option autoImplicit false

namespace MapBench

/-- Why a pool can't be opened. -/
inductive PoolError
  /-- The local store failed. -/
  | store (cause : StoreError)
  /-- The server answered with another status than 200. -/
  | answered (status : Nat)
  /-- The server gave no answer. -/
  | transport (cause : TransportError)
  deriving Repr, DecidableEq

/-- What is said about a pool that can't be opened. -/
def PoolError.message : PoolError → String
  | store cause => cause.message
  | answered status => "server answered " ++ statusText status
  | transport cause => cause.message

/-- Why an operation of a session fails. -/
inductive SessionError
  /-- The local store can't be opened. -/
  | openStore (cause : StoreError)
  /-- The pool can't be opened. -/
  | poolOpen (pool : String) (cause : PoolError)
  /-- A request got no answer that could be used. -/
  | request (cause : TransportError)
  /-- The server refused a request. -/
  | rejected (url : String) (status : Nat)
  /-- The local store failed. -/
  | store (cause : StoreError)
  /-- The write was prepared by a session of another kind. -/
  | foreignWriteOp
  /-- The session is closed. -/
  | closed
  deriving Repr, DecidableEq

/-- What is said about a failed operation. -/
def SessionError.message : SessionError → String
  | openStore cause => "cannot open local store: " ++ cause.message
  | poolOpen pool cause => "cannot open pool " ++ pool ++ ": " ++ cause.message
  | request cause => "request to object store failed: " ++ cause.message
  | rejected url status => url ++ ": server answered " ++ statusText status
  | store cause => cause.message
  | foreignWriteOp => "write operation was prepared by another kind of session"
  | closed => "session is closed"

end MapBench
