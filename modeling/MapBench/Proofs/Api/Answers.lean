import MapBench.Proofs.Api.Handle
import MapBench.Proofs.Batch.Wire
import MapBench.Proofs.Store.Atomic

/-!
# `MapBench.Proofs.Api.Answers`: what an answer says of the store

The status of an answer tells what was asked for and what came of it, and
whoever reads it knows what became of the store. That holds for every
request and every store, also for stores that lack tables.

* `Action.call`: the operation of the store that an action is.
* `Answered`: how a request, its answer, and the stores before and after
  belong together. `answered_handle`: every request is answered so.
* `Answered.pools`: no request makes a pool or takes one away.
* `AnsweredInTurn`: the same of requests one after another.
  `answeredInTurn_mapM`: so it is in every sequence of requests.
-/

set_option autoImplicit false

namespace MapBench.Api

open Store

/-! ### Actions as operations of the store -/

namespace Action

/-- The pool that an action needs. All of them need one, so a request for a
pool that isn't there is answered the same way whatever it asks for. -/
def pool : Action → String
  | .findPool pool => pool
  | .writeObject id _ | .removeObject id | .writeEntries id _ | .countEntries id => id.pool

/-- The operation of the store that an action is, and what comes of it if
it succeeds. -/
def call : Action → StoreM Outcome
  | .findPool pool => do needPool pool; return .done
  | .writeObject id data => do replaceData id data; return .done
  | .removeObject id => do Store.removeObject id; return .done
  | .writeEntries id batch => do Store.writeEntries id batch; return .done
  | .countEntries id => do
    let count ← (do needPool id.pool; mapSize id)
    return .counted count

/-- What comes of an action is a matter of how its operation ends. The store
afterwards is the one that the operation leaves, whatever is answered. -/
theorem run_eq (action : Action) (c : Connection) :
    action.run.run c = (Outcome.ofResult id (action.call.run c).1, (action.call.run c).2) := by
  have hmap {α : Type} (op : StoreM α) (good : α → Outcome) :
      (Outcome.ofStore op good).run c =
        (Outcome.ofResult id ((op >>= fun a => pure (good a)).run c).1,
          ((op >>= fun a => pure (good a)).run c).2) := by
    rw [Outcome.run_ofStore, run_bind]
    rcases op.run c with ⟨_ | _, c'⟩ <;> rfl
  cases action <;> exact hmap _ _

/-- What an action does to the tables. Only the entries that a batch writes
are told as a relation, since the rows of a key that was there before may be
put anywhere. -/
def Effect : Action → Tables → Tables → Prop
  | .findPool _, t, t' | .countEntries _, t, t' => t' = t
  | .writeObject id data, t, t' => t' = { t with objects := t.objects.map (·.insert id data) }
  | .removeObject id, t, t' => t' = t.without id
  | .writeEntries id batch, t, t' => t.Wrote id batch t'

/-- An action takes place as a whole or not at all. For each of them that
has been proved of the operation that it runs, up to what the operation
returns. -/
theorem allOrNothing_call (action : Action) (c : Connection) :
    ∃ obstacle, AllOrNothing action.call action.pool obstacle (action.Effect c.tables) c := by
  cases action with
  | findPool pool =>
    have hbody : AllOrNothing (call (.findPool pool)) pool False (fun t => t = c.tables) c :=
      allOrNothing_of_body (pure Outcome.done) (fun _ => ⟨⟨_, rfl⟩, rfl⟩) False.elim
    exact ⟨_, hbody⟩
  | writeObject id data => exact ⟨_, (allOrNothing_replaceData data id c).map fun _ => Outcome.done⟩
  | removeObject id => exact ⟨_, (allOrNothing_removeObject id c).map fun _ => Outcome.done⟩
  | writeEntries id batch =>
    exact ⟨_, (allOrNothing_writeEntries batch id c).map fun _ => Outcome.done⟩
  | countEntries id =>
    have hcount : AllOrNothing (do needPool id.pool; mapSize id : StoreM Nat) id.pool
        (c.tables.entries = none) (fun t => t = c.tables) c := by
      refine allOrNothing_of_body (mapSize id) (fun hsome => ?_) fun hnone => ?_
      · obtain ⟨es, hes⟩ := Option.ne_none_iff_exists'.mp hsome
        simp only [mapSize, run_countEntries, hes, and_true]
        exact ⟨_, rfl⟩
      · simp only [mapSize, run_countEntries, hnone, and_true]
        exact ⟨_, rfl⟩
    exact ⟨_, hcount.map Outcome.counted⟩

/-- What an action has done to the store if it was answered as a success,
and what the answer tells. -/
def Did : Action → Connection → Answer → Connection → Prop
  | .findPool pool, c, _, c' => (hasPool pool).run c = (.ok true, c')
  | .writeObject id data, c, _, c' => (replaceData id data).run c = (.ok (), c')
  | .removeObject id, c, _, c' => (Store.removeObject id).run c = (.ok (), c')
  | .writeEntries id batch, c, _, c' => (Store.writeEntries id batch).run c = (.ok (), c')
  | .countEntries id, c, a, c' =>
    c' = c ∧ ∃ n, Count.decode? a.body = some n ∧ (mapSize id).run c' = (.ok n, c')

/-- An action whose operation succeeds is done, and is answered with 200.
The answer to a count tells the number that the operation has found. -/
theorem did_of_ok {action : Action} {c c' : Connection} {o : Outcome}
    (h : action.call.run c = (.ok o, c')) : o.answer.status = 200 ∧ action.Did c o.answer c' := by
  cases action with
  | findPool pool =>
    obtain ⟨_, _, hpool, hdone⟩ := run_bind_eq_ok h
    cases hdone
    obtain ⟨rfl, hhas⟩ := run_hasPool_of_needPool hpool
    exact ⟨rfl, hhas⟩
  | countEntries id =>
    obtain ⟨n, _, hcount, hdone⟩ := run_bind_eq_ok h
    cases hdone
    obtain ⟨_, _, hpool, hsize⟩ := run_bind_eq_ok hcount
    obtain ⟨rfl, -⟩ := run_hasPool_of_needPool hpool
    have hlt : n < UInt64.size := mapSize_lt (congrArg Prod.fst hsize)
    obtain rfl : c' = _ := (congrArg Prod.snd hsize).symm.trans (by rw [mapSize, run_countEntries])
    exact ⟨rfl, rfl, n, Count.decode?_encode (Nat.le_of_lt_succ hlt), hsize⟩
  | _ =>
    obtain ⟨_, _, hop, hdone⟩ := run_bind_eq_ok h
    cases hdone
    exact ⟨rfl, hop⟩

end Action

/-! ### Answers -/

/-- How a request and its answer belong together with the store before and
the store after. -/
structure Answered (r : Request) (a : Answer) (c c' : Connection) : Prop where
  status_mem : a.status ∈ [200, 400, 404, 405, 500]
  noRoute_iff : a.status = 405 ↔ ¬ ∃ route, r.Matches route
  badBatch_iff : a.status = 400 ↔
    ∃ id, r.Matches (.writeEntries id) ∧ Batch.decode? r.body = none
  noPool_iff : a.status = 404 ↔
    ∃ action, r.Asks action ∧ c.tables.pools ≠ none ∧ ¬ c.tables.HasPool action.pool
  storeFailed_iff : a.status = 500 ↔
    ∃ action, r.Asks action ∧ ∃ cause, (action.call.run c).1 = .error (.statement cause)
  done_iff : a.status = 200 ↔ ∃ action, r.Asks action ∧ ∃ o, (action.call.run c).1 = .ok o
  did : a.status = 200 →
    ∃ action, r.Asks action ∧ action.Did c a c' ∧ action.Effect c.tables c'.tables
  tables_of_not_done : a.status ≠ 200 → c'.tables = c.tables
  tables_of_get : r.method = "GET" → c'.tables = c.tables

/-- An answer is made of an outcome alone, and making it doesn't touch the
store. -/
theorem run_handle (r : Request) (c : Connection) :
    (handle r).run c = (((outcome r).run c).1.answer, ((outcome r).run c).2) :=
  rfl

/-- What a request to get something does leaves the store as it was. The
method tells which routes are left, and neither of them writes. -/
theorem Action.Did.eq_of_get {r : Request} {action : Action} {a : Answer} {c c' : Connection}
    (h : action.Did c a c') (hasks : r.Asks action) (hget : r.method = "GET") : c' = c := by
  obtain ⟨route, ⟨hmethod, -⟩, haction⟩ := hasks
  rw [hget] at hmethod
  cases route with
  | findPool pool =>
    cases haction
    exact (congrArg Prod.snd h).symm.trans (by rw [run_hasPool])
  | countEntries id =>
    cases haction
    exact h.1
  | _ => simp [Route.method] at hmethod

/-- A request that asks for nothing is refused, and the store isn't
touched. -/
theorem answered_of_refused {r : Request} {why : Refusal} (h : r.action = .error why)
    (c : Connection) : Answered r (Outcome.refused why).answer c c := by
  have hnone (P : Action → Prop) : ¬ ∃ action, r.Asks action ∧ P action := by
    rintro ⟨action, hasks, -⟩
    rw [Request.asks_iff, h] at hasks
    cases hasks
  have hroute : (¬ ∃ route, r.Matches route) ↔ why = .noRoute := by
    rw [← Request.action_eq_noRoute_iff, h, Except.error.injEq]
  have hbatch : (∃ id, r.Matches (.writeEntries id) ∧ Batch.decode? r.body = none) ↔
      why = .badBatch := by
    rw [← Request.action_eq_badBatch_iff, h, Except.error.injEq]
  have hstatus : (Outcome.refused why).answer.status = if why = .noRoute then 405 else 400 := by
    cases why <;> rfl
  constructor <;> simp only [hnone, hroute, hbatch, hstatus] <;> cases why <;> simp

/-- An action is answered by how its operation ends. There are only three
ways, and each of them has a status of its own. -/
theorem Action.status_run (action : Action) (c : Connection) :
    let status := (action.run.run c).1.answer.status
    status ∈ [200, 404, 500] ∧ (status = 200 ↔ ∃ o, (action.call.run c).1 = .ok o) ∧
      (status = 404 ↔ (action.call.run c).1 = .error (.noSuchPool action.pool)) ∧
      (status = 500 ↔ ∃ cause, (action.call.run c).1 = .error (.statement cause)) := by
  obtain ⟨_, hall⟩ := action.allOrNothing_call c
  rw [run_eq]
  rcases hall.cases with ⟨o, ho⟩ | hpool | ⟨cause, hcause⟩
  · have hstatus : (Outcome.ofResult id (.ok o)).answer.status = 200 :=
      (did_of_ok (Prod.ext ho rfl)).1
    simp [ho, hstatus]
  · simp [hpool, Outcome.ofResult, Outcome.ofError, Outcome.answer, bare]
  · simp [hcause, Outcome.ofResult, Outcome.ofError, Outcome.answer, bare]

/-- A request that asks for an action is answered for the operation of the
store that the action is. -/
theorem answered_of_asks {r : Request} {action : Action} (h : r.Asks action) (c : Connection) :
    Answered r (action.run.run c).1.answer c (action.run.run c).2 := by
  have haction := Request.asks_iff.mp h
  have honly (P : Action → Prop) : (∃ other, r.Asks other ∧ P other) ↔ P action := by
    simp only [Request.asks_iff, haction, Except.ok.injEq, exists_eq_left']
  have hroute : ∃ route, r.Matches route := h.imp fun _ hasks => hasks.1
  have hbatch : ¬ ∃ id, r.Matches (.writeEntries id) ∧ Batch.decode? r.body = none := by
    rw [← Request.action_eq_badBatch_iff, haction]
    simp
  obtain ⟨_, hall⟩ := action.allOrNothing_call c
  obtain ⟨hmem, hdone, hpool, hfailed⟩ := action.status_run c
  -- A success has done what was asked for; a failure leaves the tables alone.
  have hdid (hstatus : (action.run.run c).1.answer.status = 200) :
      action.Did c (action.run.run c).1.answer (action.run.run c).2 ∧
        action.Effect c.tables (action.run.run c).2.tables := by
    obtain ⟨o, ho⟩ := hdone.mp hstatus
    rw [Action.run_eq, ho]
    exact ⟨(Action.did_of_ok (Prod.ext ho rfl)).2, hall.effect_of_ok o ho⟩
  have htables (hstatus : (action.run.run c).1.answer.status ≠ 200) :
      (action.run.run c).2.tables = c.tables := by
    cases hresult : (action.call.run c).1 with
    | ok o => exact absurd (hdone.mpr ⟨o, hresult⟩) hstatus
    | error e => rw [Action.run_eq, hall.tables_of_error e hresult]
  exact
    { status_mem := by
        simp only [List.mem_cons, List.not_mem_nil, or_false] at hmem ⊢
        omega
      noRoute_iff := by
        simp only [List.mem_cons, List.not_mem_nil, or_false] at hmem
        exact ⟨fun hstatus => by omega, fun hnone => absurd hroute hnone⟩
      badBatch_iff := by
        simp only [List.mem_cons, List.not_mem_nil, or_false] at hmem
        exact ⟨fun hstatus => by omega, fun hbad => absurd hbad hbatch⟩
      noPool_iff := by rw [honly, hpool, hall.noSuchPool_iff]
      storeFailed_iff := by rw [honly, hfailed]
      done_iff := by rw [honly, hdone]
      did := fun hstatus => ⟨action, h, hdid hstatus⟩
      tables_of_not_done := htables
      tables_of_get := fun hget => by
        by_cases hstatus : (action.run.run c).1.answer.status = 200
        · rw [(hdid hstatus).1.eq_of_get h hget]
        · exact htables hstatus }

/-- Every request is answered for what it did to the store. It either asks
for an action or is refused, and both have been dealt with. -/
theorem answered_handle (r : Request) (c : Connection) :
    Answered r ((handle r).run c).1 c ((handle r).run c).2 := by
  rw [run_handle, outcome]
  cases haction : r.action with
  | error why => exact answered_of_refused haction c
  | ok action => exact answered_of_asks (Request.asks_iff.mpr haction) c

/-! ### Pools -/

section

variable {r : Request} {a : Answer} {c c' : Connection} {action : Action}

/-- No action changes which pools there are. Objects and entries name their
pools, but pools are only made when a store is opened. -/
theorem Action.Effect.pools {t t' : Tables} (h : action.Effect t t') : t'.pools = t.pools := by
  cases action with
  | findPool pool => rw [show t' = t from h]
  | writeObject id data => rw [show t' = _ from h]
  | removeObject id =>
    rw [show t' = t.without id from h]
    rfl
  | writeEntries id batch => exact Tables.Wrote.pools h
  | countEntries id => rw [show t' = t from h]

/-- So no request does. A client that has found a pool can rely on it for as
long as the server runs. -/
theorem Answered.pools (h : Answered r a c c') : c'.tables.pools = c.tables.pools := by
  by_cases hstatus : a.status = 200
  · obtain ⟨action, -, -, heffect⟩ := h.did hstatus
    exact heffect.pools
  · rw [h.tables_of_not_done hstatus]

/-- An action on a pool that isn't there touches nothing, not even what
the connection has prepared. -/
theorem Action.run_of_noPool (hpools : c.tables.pools ≠ none) (hpool : ¬ c.tables.HasPool action.pool) :
    action.run.run c = (.noPool, c) := by
  obtain ⟨ps, hps⟩ := Option.ne_none_iff_exists'.mp hpools
  have hmiss : action.pool ∉ ps := fun hmem => hpool ⟨ps, hps, hmem⟩
  have hneed : (needPool action.pool).run c = (.error (.noSuchPool action.pool), c) := by
    rw [run_needPool, hps]
    simp only [if_neg hmiss]
  have hbehind {α β : Type} (body : StoreM α) (next : α → StoreM β) :
      ((needPool action.pool >>= fun _ => body) >>= next).run c =
        (.error (.noSuchPool action.pool), c) := by
    rw [run_bind, run_bind, hneed]
  have hcall : action.call.run c = (.error (.noSuchPool action.pool), c) := by
    cases action with
    | findPool pool => rw [call, run_bind, show (needPool pool).run c = _ from hneed]
    | writeObject id data => exact hbehind (putObject id data) fun _ => pure Outcome.done
    | removeObject id => exact hbehind (deleteAll id) fun _ => pure Outcome.done
    | writeEntries id batch => exact hbehind (setEntries id batch) fun _ => pure Outcome.done
    | countEntries id => exact hbehind (mapSize id) fun count => pure (Outcome.counted count)
  rw [run_eq, hcall]
  rfl

/-- A request for it is answered with 404. The connection is the same
afterwards, so the next request finds nothing changed. -/
theorem run_handle_of_noPool (hasks : r.Asks action) (hpools : c.tables.pools ≠ none)
    (hpool : ¬ c.tables.HasPool action.pool) : (handle r).run c = (bare 404, c) := by
  rw [run_handle, outcome, Request.asks_iff.mp hasks]
  simp only [Action.run_of_noPool hpools hpool, Outcome.answer]

/-- Finding a pool touches nothing, either. That's what makes it safe for a
client to ask before it works. -/
theorem run_handle_findPool {pool : String} (hasks : r.Asks (.findPool pool))
    (hpool : c.tables.HasPool pool) : (handle r).run c = (bare 200, c) := by
  rw [run_handle, outcome, Request.asks_iff.mp hasks]
  simp only [Action.run, Outcome.run_ofStore, run_needPool_of_hasPool hpool]
  rfl

end

/-! ### Sequences of requests -/

/-- Requests are answered one after another, each on the store that the one
before left. -/
inductive AnsweredInTurn : List Request → List Answer → Connection → Connection → Prop
  | nil (c : Connection) : AnsweredInTurn [] [] c c
  | cons {r : Request} {a : Answer} {rs : List Request} {as : List Answer}
      {c c₁ c' : Connection} (head : Answered r a c c₁) (tail : AnsweredInTurn rs as c₁ c') :
      AnsweredInTurn (r :: rs) (a :: as) c c'

/-- Of several requests the first is answered on the store as it is, and the
others on what it leaves. -/
theorem run_mapM_handle_cons (r : Request) (rs : List Request) (c : Connection) :
    ((r :: rs).mapM handle).run c =
      (((handle r).run c).1 :: ((rs.mapM handle).run ((handle r).run c).2).1,
        ((rs.mapM handle).run ((handle r).run c).2).2) := by
  rw [List.mapM_cons]
  rfl

/-- The same of a whole sequence of requests before others. Where a sequence
is cut doesn't matter to any answer. -/
theorem run_mapM_handle_append (rs rs' : List Request) (c : Connection) :
    ((rs ++ rs').mapM handle).run c =
      (((rs.mapM handle).run c).1 ++ ((rs'.mapM handle).run ((rs.mapM handle).run c).2).1,
        ((rs'.mapM handle).run ((rs.mapM handle).run c).2).2) := by
  rw [List.mapM_append]
  rfl

/-- In every sequence of requests, whatever the store was at first, each is
answered for what it did. -/
theorem answeredInTurn_mapM (rs : List Request) (c : Connection) :
    AnsweredInTurn rs ((rs.mapM handle).run c).1 c ((rs.mapM handle).run c).2 := by
  induction rs generalizing c with
  | nil => exact .nil c
  | cons r rs ih =>
    rw [run_mapM_handle_cons]
    exact .cons (answered_handle r c) (ih _)

/-- The answer to a request in a sequence is the one that it gets on the
store that those before it left. -/
theorem run_handle_of_getElem? {rs : List Request} {c : Connection} {k : Nat} {r : Request}
    {a : Answer} (hr : rs[k]? = some r) (ha : ((rs.mapM handle).run c).1[k]? = some a) :
    ((handle r).run (((rs.take k).mapM handle).run c).2).1 = a := by
  induction rs generalizing c k with
  | nil => cases hr
  | cons first rs ih =>
    rw [run_mapM_handle_cons] at ha
    cases k with
    | zero =>
      cases hr
      exact Option.some.inj ha
    | succ k =>
      rw [List.take_succ_cons, run_mapM_handle_cons]
      exact ih hr ha

/-- Requests one after another that were all answered as successes, with the
tables before the first and after the last. -/
inductive AcceptedInTurn : List Request → Tables → Tables → Prop
  | nil (t : Tables) : AcceptedInTurn [] t t
  | cons {r : Request} {a : Answer} {rs : List Request} {c c₁ : Connection} {t : Tables}
      (head : (handle r).run c = (a, c₁)) (accepted : a.status = 200)
      (tail : AcceptedInTurn rs c₁.tables t) : AcceptedInTurn (r :: rs) c.tables t

/-- What a sequence of requests leads to is the work of those that were
answered as successes. -/
theorem exists_acceptedInTurn (rs : List Request) (c : Connection) :
    ∃ accepted, accepted.Sublist rs ∧
      AcceptedInTurn accepted c.tables ((rs.mapM handle).run c).2.tables := by
  induction rs generalizing c with
  | nil => exact ⟨[], .slnil, .nil c.tables⟩
  | cons r rs ih =>
    obtain ⟨accepted, hsub, hturn⟩ := ih ((handle r).run c).2
    rw [run_mapM_handle_cons]
    by_cases hstatus : ((handle r).run c).1.status = 200
    · exact ⟨r :: accepted, hsub.cons_cons r, .cons rfl hstatus hturn⟩
    · rw [(answered_handle r c).tables_of_not_done hstatus] at hturn
      exact ⟨accepted, hsub.cons r, hturn⟩

/-! ### Entries that were written -/

section

variable {r : Request} {a : Answer} {c c' : Connection} {e : EntryId}

/-- A batch that was answered as a success is in the map. That is true of
each key alone, also if the batch names it twice. -/
theorem Answered.hasEntry (h : Answered r a c c') (hstatus : a.status = 200) {id : ObjectId}
    {batch : Batch} (hasks : r.Asks (.writeEntries id batch)) {key : String}
    (hkey : key ∈ batch.keys) : c'.tables.HasEntry ⟨id, key⟩ := by
  obtain ⟨action, hasks', -, heffect⟩ := h.did hstatus
  rw [Request.asks_iff] at hasks hasks'
  obtain rfl := Except.ok.inj (hasks.symm.trans hasks')
  exact heffect.hasEntry hkey

/-- Only who removes an object takes an entry away. A batch may overwrite
what stands at a key, but the key is still there. -/
theorem Answered.keepsEntry (h : Answered r a c c') (he : c.tables.HasEntry e)
    (hnot : ¬ r.Asks (.removeObject e.target)) : c'.tables.HasEntry e := by
  by_cases hstatus : a.status = 200
  · obtain ⟨action, hasks, -, heffect⟩ := h.did hstatus
    cases action with
    | removeObject id =>
      have hother : e.target ≠ id := fun heq => hnot (heq ▸ hasks)
      exact (show c'.tables = c.tables.without id from heffect) ▸ he.without hother
    | writeEntries id batch => exact he.wrote heffect
    | writeObject id data =>
      obtain ⟨es, hes, hmem⟩ := he
      exact ⟨es, by rw [show c'.tables = _ from heffect]; exact hes, hmem⟩
    | findPool pool => exact (show c'.tables = c.tables from heffect) ▸ he
    | countEntries id => exact (show c'.tables = c.tables from heffect) ▸ he
  · rw [h.tables_of_not_done hstatus]
    exact he

/-- An entry stays there as long as nobody removes its object. -/
theorem hasEntry_mapM {rs : List Request} (he : c.tables.HasEntry e)
    (hnot : ∀ r ∈ rs, ¬ r.Asks (.removeObject e.target)) :
    ((rs.mapM handle).run c).2.tables.HasEntry e := by
  induction rs generalizing c with
  | nil => exact he
  | cons r rs ih =>
    obtain ⟨hfirst, hrest⟩ := List.forall_mem_cons.mp hnot
    rw [run_mapM_handle_cons]
    exact ih ((answered_handle r c).keepsEntry he hfirst) hrest

end

end MapBench.Api
