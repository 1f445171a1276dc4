import MapBench.Api.Count
import MapBench.Api.Route
import MapBench.Store.Operations

/-!
# `MapBench.Api.Handle`: answering requests

A request is first turned into an action, without the store; the
action then runs on the store as a whole; and what came of it becomes
an answer. A server that lets many requests in keeps the middle step
to one request at a time.

* `Api.Action.run`: an action on the store.
* `Api.handle`: a request and its answer.
-/

set_option autoImplicit false

namespace MapBench.Api

/-- An answer of the server. -/
structure Answer where
  status : Nat
  contentType : Option String
  body : List UInt8
  deriving Repr, DecidableEq

/-- What came of a request. -/
inductive Outcome
  /-- It was carried out. -/
  | done
  /-- A map was counted. -/
  | counted (count : Nat)
  /-- The pool doesn't exist. -/
  | noPool
  /-- The store failed. -/
  | storeFailed
  /-- It asked for nothing. -/
  | refused (why : Refusal)
  deriving Repr, DecidableEq

/-- A missing pool is the client's mistake; anything else is the
store's. -/
def Outcome.ofError : StoreError → Outcome
  | .noSuchPool _ => .noPool
  | _ => .storeFailed

/-- Run an operation of the store and say what came of it. -/
def Outcome.ofStore {α : Type} (op : StoreM α) (good : α → Outcome) : StateM Connection Outcome := do
  match ← op.run with
  | .ok a => return good a
  | .error e => return ofError e

/-- Run an action on the store. -/
def Action.run : Action → StateM Connection Outcome
  | .findPool pool => Outcome.ofStore (Store.needPool pool) fun _ => .done
  | .writeObject id data => Outcome.ofStore (Store.replaceData id data) fun _ => .done
  | .removeObject id => Outcome.ofStore (Store.removeObject id) fun _ => .done
  | .writeEntries id batch => Outcome.ofStore (Store.writeEntries id batch) fun _ => .done
  | .countEntries id =>
    Outcome.ofStore (do Store.needPool id.pool; Store.mapSize id) .counted

/-- An answer with a status and nothing else. -/
def bare (status : Nat) : Answer :=
  ⟨status, some "text/plain", []⟩

/-- The answer for an outcome. -/
def Outcome.answer : Outcome → Answer
  | done => bare 200
  | counted count => ⟨200, some "application/json", Count.encode count⟩
  | noPool => bare 404
  | storeFailed => bare 500
  | refused .badBatch => bare 400
  | refused .noRoute =>
    ⟨405, some "text/plain; charset=utf-8", Utf8.encode "HTTP method not allowed"⟩

/-- What comes of a request. -/
def outcome (r : Request) : StateM Connection Outcome :=
  match r.action with
  | .ok action => action.run
  | .error why => return .refused why

/-- Answer a request. -/
def handle (r : Request) : StateM Connection Answer := do
  return (← outcome r).answer

end MapBench.Api
