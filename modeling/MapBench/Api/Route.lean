import MapBench.Api.Path
import MapBench.Batch.Wire
import MapBench.Store.Tables

/-!
# `MapBench.Api.Route`: what a request asks for

A request's method and path decide what is asked for. There are five
things to ask for, and each has one method and one form of path.

* `Api.Route.of?`: the route of a method and a path.
* `Api.Action`: what is asked for, together with the data of the
  request.
* `Api.Request.action`: the action of a request, or the reason why
  there is none: no route, or a batch that can't be read.
-/

set_option autoImplicit false

namespace MapBench.Api

/-- A request to the server. -/
structure Request where
  method : String
  path : String
  body : List UInt8
  deriving Repr, DecidableEq

/-- What is asked for, without the data of the request. -/
inductive Route
  /-- Does a pool exist? -/
  | findPool (pool : String)
  /-- Replace an object's data. -/
  | writeObject (id : ObjectId)
  /-- Remove an object and its map. -/
  | removeObject (id : ObjectId)
  /-- Write a batch into an object's map. -/
  | writeEntries (id : ObjectId)
  /-- Count the entries of an object's map. -/
  | countEntries (id : ObjectId)
  deriving Repr, DecidableEq

/-- The route of a method and the pieces of a path. -/
def Route.ofPieces? (method : String) : List String → Option Route
  | ["v1", "pools", pool] => if method = "GET" then some (.findPool pool) else none
  | ["v1", "pools", pool, "objects", object] =>
    if method = "PUT" then some (.writeObject ⟨pool, object⟩)
    else if method = "DELETE" then some (.removeObject ⟨pool, object⟩)
    else none
  | ["v1", "pools", pool, "objects", object, "omap"] =>
    if method = "POST" then some (.writeEntries ⟨pool, object⟩) else none
  | ["v1", "pools", pool, "objects", object, "omap", "count"] =>
    if method = "GET" then some (.countEntries ⟨pool, object⟩) else none
  | _ => none

/-- The route of a method and a path. -/
def Route.of? (method path : String) : Option Route :=
  (pieces? path).bind (Route.ofPieces? method)

/-- What is asked for. -/
inductive Action
  | findPool (pool : String)
  | writeObject (id : ObjectId) (data : List UInt8)
  | removeObject (id : ObjectId)
  | writeEntries (id : ObjectId) (batch : Batch)
  | countEntries (id : ObjectId)
  deriving Repr, DecidableEq

/-- Why a request asks for nothing. -/
inductive Refusal
  /-- No route has this method and path. -/
  | noRoute
  /-- The body is no batch. -/
  | badBatch
  deriving Repr, DecidableEq

/-- What a request asks for. The body is read before anything looks
at the store. -/
def Request.action (r : Request) : Except Refusal Action :=
  match Route.of? r.method r.path with
  | none => .error .noRoute
  | some (.findPool pool) => .ok (.findPool pool)
  | some (.writeObject id) => .ok (.writeObject id r.body)
  | some (.removeObject id) => .ok (.removeObject id)
  | some (.writeEntries id) =>
    match Batch.decode? r.body with
    | some batch => .ok (.writeEntries id batch)
    | none => .error .badBatch
  | some (.countEntries id) => .ok (.countEntries id)

end MapBench.Api
