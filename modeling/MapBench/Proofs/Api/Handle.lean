import MapBench.Api.Handle
import MapBench.Api.Status

/-!
# `MapBench.Proofs.Api.Handle`: what becomes of a request

A request that has a route becomes an action, and an action runs an
operation of the store and tells what came of it.

* `Request.Matches`: a request has the method and the path of a route.
* `Request.Asks`: a request asks for an action.
* `Outcome.run_ofStore`: what came of an operation, and the store after it.
* `outcome_of_route`, `outcome_of_noRoute`: what comes of a request.
-/

set_option autoImplicit false

namespace MapBench.Api

variable {α : Type}

/-! ### Routes and actions -/

/-- The method of a route. Two routes have the same path, and are told apart
by it. -/
def Route.method : Route → String
  | .findPool _ | .countEntries _ => "GET"
  | .writeObject _ => "PUT"
  | .removeObject _ => "DELETE"
  | .writeEntries _ => "POST"

/-- The pieces of a route's path. Names are pieces as they are, and the
others are fixed. -/
def Route.pieces : Route → List String
  | .findPool pool => ["v1", "pools", pool]
  | .writeObject id | .removeObject id => ["v1", "pools", id.pool, "objects", id.object]
  | .writeEntries id => ["v1", "pools", id.pool, "objects", id.object, "omap"]
  | .countEntries id => ["v1", "pools", id.pool, "objects", id.object, "omap", "count"]

/-- A method and the pieces of a path have the route that they are
those of, and no other. -/
theorem Route.ofPieces?_eq_some_iff {method : String} {names : List String} {route : Route} :
    ofPieces? method names = some route ↔ method = route.method ∧ names = route.pieces := by
  constructor
  · intro h
    unfold ofPieces? at h
    split at h
    · split at h <;> cases h
      next hmethod => exact ⟨hmethod, rfl⟩
    · split at h
      next hmethod =>
        cases h
        exact ⟨hmethod, rfl⟩
      next =>
        split at h <;> cases h
        next hmethod => exact ⟨hmethod, rfl⟩
    · split at h <;> cases h
      next hmethod => exact ⟨hmethod, rfl⟩
    · split at h <;> cases h
      next hmethod => exact ⟨hmethod, rfl⟩
    · cases h
  · rintro ⟨rfl, rfl⟩
    cases route <;> rfl

/-- The request has the method and the path of the route. The body has no
part in that. -/
def Request.Matches (r : Request) (route : Route) : Prop :=
  r.method = route.method ∧ pieces? r.path = some route.pieces

/-- A request has at most one route, and it is the one that the server
finds. -/
theorem Request.matches_iff {r : Request} {route : Route} :
    r.Matches route ↔ Route.of? r.method r.path = some route := by
  simp only [Matches, Route.of?, Option.bind_eq_some_iff, Route.ofPieces?_eq_some_iff]
  constructor
  · exact fun ⟨hmethod, hpieces⟩ => ⟨_, hpieces, hmethod, rfl⟩
  · rintro ⟨_, hpieces, hmethod, rfl⟩
    exact ⟨hmethod, hpieces⟩

/-- The action of a route, with the body of the request. Only a batch of
entries has to be read, and that can fail. -/
def Route.action (body : List UInt8) : Route → Except Refusal Action
  | .findPool pool => .ok (.findPool pool)
  | .writeObject id => .ok (.writeObject id body)
  | .removeObject id => .ok (.removeObject id)
  | .writeEntries id =>
    match Batch.decode? body with
    | some batch => .ok (.writeEntries id batch)
    | none => .error .badBatch
  | .countEntries id => .ok (.countEntries id)

/-- A request is first routed, and its body is only looked at afterwards.
Without a route it doesn't matter whether the body is a batch. -/
theorem Request.action_eq (r : Request) : r.action =
    match Route.of? r.method r.path with
    | none => .error .noRoute
    | some route => route.action r.body := by
  rw [Request.action]
  cases Route.of? r.method r.path with
  | none => rfl
  | some route => cases route <;> rfl

/-- The request asks for the action: it matches a route, and the route
takes its body. -/
def Request.Asks (r : Request) (action : Action) : Prop :=
  ∃ route, r.Matches route ∧ route.action r.body = .ok action

/-- What a request asks for can be computed, and it is one action at most. -/
theorem Request.asks_iff {r : Request} {action : Action} :
    r.Asks action ↔ r.action = .ok action := by
  simp only [Asks, matches_iff, action_eq]
  cases Route.of? r.method r.path <;> simp

/-- A request without a route is refused as such, and no other one is. -/
theorem Request.action_eq_noRoute_iff {r : Request} :
    r.action = .error .noRoute ↔ ¬ ∃ route, r.Matches route := by
  simp only [matches_iff, action_eq]
  cases Route.of? r.method r.path with
  | none => simp
  | some route =>
    cases route with
    | writeEntries id => cases hbatch : Batch.decode? r.body <;> simp [Route.action, hbatch]
    | _ => simp [Route.action]

/-- A request whose route needs a batch and whose body is none is refused
for that. -/
theorem Request.action_eq_badBatch_iff {r : Request} :
    r.action = .error .badBatch ↔
      ∃ id, r.Matches (.writeEntries id) ∧ Batch.decode? r.body = none := by
  simp only [matches_iff, action_eq]
  cases Route.of? r.method r.path with
  | none => simp
  | some route =>
    cases route with
    | writeEntries id => cases hbatch : Batch.decode? r.body <;> simp [Route.action, hbatch]
    | _ => simp [Route.action]

/-! ### Outcomes -/

/-- What comes of a request that has a route is what comes of its action. -/
theorem outcome_of_route {method path : String} {route : Route}
    (hroute : Route.of? method path = some route) {body : List UInt8} {action : Action}
    (haction : route.action body = .ok action) : outcome ⟨method, path, body⟩ = action.run := by
  rw [outcome, Request.action_eq, hroute]
  simp only [haction]

/-- A request without a route doesn't touch the store. It is refused before
the lock on the connection is taken. -/
theorem outcome_of_noRoute {method path : String} (hroute : Route.of? method path = none)
    (body : List UInt8) : outcome ⟨method, path, body⟩ = pure (.refused .noRoute) := by
  rw [outcome, Request.action_eq, hroute]

/-- What came of an operation of the store. It is told by its result alone. -/
def Outcome.ofResult (good : α → Outcome) : Except StoreError α → Outcome
  | .ok a => good a
  | .error e => ofError e

/-- An operation of the store is run, and whatever it returns is told. No
failure of it stops a server. -/
theorem Outcome.run_ofStore (op : StoreM α) (good : α → Outcome) (c : Connection) :
    (ofStore op good).run c = (ofResult good (op.run c).1, (op.run c).2) := by
  rw [ofStore, StateT.run_bind]
  show StateT.run (match (op.run c).1 with
    | .ok a => pure (good a)
    | .error e => pure (ofError e)) (op.run c).2 = _
  rcases op.run c with ⟨_ | _, c'⟩ <;> rfl

/-- No failure of the store is answered as a success. That holds of both
causes, the missing pool and the statement that failed. -/
theorem Outcome.isSuccess_ofError (e : StoreError) : isSuccess (ofError e).answer.status = false := by
  cases e <;> rfl

end MapBench.Api
