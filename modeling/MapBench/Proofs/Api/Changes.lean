import MapBench.Proofs.Api.Answers
import MapBench.Proofs.Store.Contents

/-!
# `MapBench.Proofs.Api.Changes`: requests to a store that holds contents

A store that holds contents is changed by a request exactly as its contents
are, and the answer tells whether they were.

* `Request.change?`: the change that a request asks for, if any.
* `holds_handle`: what the store holds after a request.
* `isSuccess_handle_iff`: when a change is answered as a success.
* `run_handle_countEntries`: what is told of a map.
-/

set_option autoImplicit false

namespace MapBench.Api

open Store

/-- The change of the store that an action is, if it is one. Asking for a
pool or a count isn't. -/
def Action.change? : Action → Option StoreChange
  | .findPool _ | .countEntries _ => none
  | .writeObject id data => some (.replaceData id data)
  | .removeObject id => some (.removeObject id)
  | .writeEntries id batch => some (.writeEntries id batch)

/-- The change of the store that a request asks for, if any. A request that
is refused asks for none. -/
def Request.change? (r : Request) : Option StoreChange :=
  match r.action with
  | .ok action => action.change?
  | .error _ => none

variable {r : Request} {action : Action} {ch : StoreChange} {c : Connection} {A : Contents}

/-- A request asks for the change that its action is. -/
theorem Request.change?_of_asks (h : r.Asks action) : r.change? = action.change? := by
  rw [change?, Request.asks_iff.mp h]

/-- What matters of a request is its route and its body. Two addresses that
lead to one route ask for the same change. -/
theorem Request.change?_of_matches {route : Route} (h : r.Matches route) :
    r.change? = match route.action r.body with
      | .ok action => action.change?
      | .error _ => none := by
  rw [change?, Request.action_eq, Request.matches_iff.mp h]

/-- Who asks for a change asks for an action, and is not refused. -/
theorem Request.exists_asks_of_change? (h : r.change? = some ch) :
    ∃ action, r.Asks action ∧ action.change? = some ch := by
  rw [change?] at h
  cases haction : r.action with
  | ok action =>
    rw [haction] at h
    exact ⟨action, Request.asks_iff.mpr haction, h⟩
  | error why =>
    rw [haction] at h
    cases h

/-- Who gets something changes nothing. A route for that method finds a pool
or counts a map. -/
theorem Request.change?_of_get (h : r.method = "GET") : r.change? = none := by
  refine Option.eq_none_iff_forall_ne_some.mpr fun ch hch => ?_
  obtain ⟨action, ⟨route, ⟨hmethod, -⟩, haction⟩, hchange⟩ := exists_asks_of_change? hch
  rw [h] at hmethod
  cases route with
  | findPool pool | countEntries id =>
    cases haction
    cases hchange
  | _ => simp [Route.method] at hmethod

/-- Who does anything else is to change something. So the method alone tells
reading from writing. -/
theorem Request.Asks.exists_change (hasks : r.Asks action) (h : r.method ≠ "GET") :
    ∃ ch, action.change? = some ch := by
  obtain ⟨route, ⟨hmethod, -⟩, haction⟩ := hasks
  cases route with
  | findPool pool => exact absurd hmethod h
  | countEntries id => exact absurd hmethod h
  | writeEntries id =>
    rw [Route.action] at haction
    split at haction <;> cases haction
    exact ⟨_, rfl⟩
  | _ =>
    cases haction
    exact ⟨_, rfl⟩

/-- An action that is a change runs it. Only the result is another one, and
it says no more than that the change is done. -/
theorem Action.run_call_of_change? (h : action.change? = some ch) (c : Connection) :
    action.call.run c = ((ch.run.run c).1.map fun _ => .done, (ch.run.run c).2) := by
  have hcall : action.call = (do ch.run; return .done) := by
    cases action <;> cases h <;> rfl
  rw [hcall, run_bind]
  rcases ch.run.run c with ⟨_ | _, c'⟩ <;> rfl

/-- Any other action leaves the tables as they are, also if it fails. -/
theorem Action.Effect.eq_of_change?_eq_none {t t' : Tables} (h : action.Effect t t')
    (hnone : action.change? = none) : t' = t := by
  cases action <;> first | exact h | cases hnone

/-- After a request the store holds what its contents are then. A change
that fails leaves both as they were, so the two agree on refusals too. -/
theorem holds_handle (h : c.tables.Holds A) (r : Request) :
    ((handle r).run c).2.tables.Holds (r.change?.toList.foldl Contents.after A) := by
  have hanswered := answered_handle r c
  cases hchange : r.change? with
  | some ch =>
    obtain ⟨action, hasks, hch⟩ := Request.exists_asks_of_change? hchange
    rw [run_handle, outcome, Request.asks_iff.mp hasks]
    simp only [Action.run_eq, Action.run_call_of_change? hch]
    exact (h.run_change ch).2
  | none =>
    have hsame : ((handle r).run c).2.tables = c.tables := by
      by_cases hstatus : ((handle r).run c).1.status = 200
      · obtain ⟨action, hasks, -, heffect⟩ := hanswered.did hstatus
        rw [Request.change?_of_asks hasks] at hchange
        exact heffect.eq_of_change?_eq_none hchange
      · exact hanswered.tables_of_not_done hstatus
    rw [hsame]
    exact h

/-- Of the statuses that the server answers with, only 200 is one of
success. -/
theorem isSuccess_handle_iff_status (r : Request) (c : Connection) :
    isSuccess ((handle r).run c).1.status = true ↔ ((handle r).run c).1.status = 200 := by
  have hmem := (answered_handle r c).status_mem
  simp only [List.mem_cons, List.not_mem_nil, or_false] at hmem
  rcases hmem with h | h | h | h | h <;> rw [h] <;> decide

/-- Only what asks for something is answered as a success. Without a route
or with a bad batch there is nothing to do. -/
theorem exists_asks_of_isSuccess (h : isSuccess ((handle r).run c).1.status = true) :
    ∃ action, r.Asks action := by
  obtain ⟨action, hasks, -⟩ :=
    (answered_handle r c).done_iff.mp ((isSuccess_handle_iff_status r c).mp h)
  exact ⟨action, hasks⟩

/-- A change is answered as a success exactly if the contents allow it. A
client can tell from the status which of its changes have come to be. -/
theorem isSuccess_handle_iff (h : c.tables.Holds A) (hasks : r.Asks action)
    (hch : action.change? = some ch) :
    isSuccess ((handle r).run c).1.status = true ↔ ∃ B, A.change ch = .ok B := by
  rw [isSuccess_handle_iff_status, (answered_handle r c).done_iff]
  have hresult := (h.run_change ch).1
  constructor
  · rintro ⟨other, hother, o, ho⟩
    obtain rfl : action = other :=
      Except.ok.inj ((Request.asks_iff.mp hasks).symm.trans (Request.asks_iff.mp hother))
    rw [Action.run_call_of_change? hch, hresult] at ho
    cases hchange : A.change ch with
    | ok B => exact ⟨B, rfl⟩
    | error e => rw [hchange] at ho; cases ho
  · rintro ⟨B, hB⟩
    refine ⟨action, hasks, .done, ?_⟩
    rw [Action.run_call_of_change? hch, hresult, hB]
    rfl

/-- The number that is told of a map is that of its keys. It is told in a
word of 64 bits, and a larger one would be cut. -/
theorem run_handle_countEntries (h : c.tables.Holds A) {id : ObjectId}
    (hasks : r.Asks (.countEntries id)) (hpool : id.pool ∈ A) :
    (handle r).run c = ((Outcome.counted (A.mapSize id % UInt64.size)).answer, c) := by
  have hrun : (do needPool id.pool; mapSize id : StoreM Nat).run c =
      (.ok (A.mapSize id % UInt64.size), c) := by
    rw [run_bind, run_needPool_of_hasPool ((h.hasPool_iff id.pool).mpr hpool)]
    exact h.run_mapSize id
  rw [run_handle, outcome, Request.asks_iff.mp hasks]
  simp only [Action.run, Outcome.run_ofStore, hrun]
  rfl

end MapBench.Api
