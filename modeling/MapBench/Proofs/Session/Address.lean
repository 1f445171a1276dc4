import MapBench.Proofs.Session.Remote

/-!
# `MapBench.Proofs.Session.Address`: what a session with a server reaches

Names go into addresses as they are, so a name may end a path, add to
it, or lead elsewhere. A session reaches exactly what was named if the
names are plain, and only then.

* `ActsOn`: what is asked for is an operation on one object.
* `WorksOn`, `AddressesExactly`: a session reaches exactly the object
  that was named, and it is there exactly if the pool is.
* `addressesExactly_iff`: which names are so.
-/

set_option autoImplicit false

namespace MapBench

open RemoteSession Std Url

variable {α : Type} {readHost : HostReader} {base pool object : String}

/-- On a store, what is asked for has the effect of an operation and ends
like it, and the rows of other objects stay as they are. -/
def ActsOn (id : ObjectId) (c : Connection) (act : StateM Connection (Except SessionError α))
    (op : StoreM α) : Prop :=
  ActsAt c act op ∧ (act.run c).2.tables.without id = c.tables.without id

/-- What a session does to an object of its pool is what a session with
a store file does there: each operation is that of the store, on the
rows of that object. The pool has to be there for counting, which looks
for it. -/
structure WorksOn (readHost : HostReader) (r : RemoteSession) (id : ObjectId) : Prop where
  removeObject : ∀ c,
    ActsOn id c ((r.storage (Network.ofServer readHost)).removeObject id.object)
      (Store.removeObject id)
  writeObject : ∀ data c,
    ActsOn id c ((r.storage (Network.ofServer readHost)).writeObject id.object data)
      (Store.replaceData id data)
  /-- A write may be applied long after it was prepared. -/
  operate : ∀ batch body c c',
    (((r.storage (Network.ofServer readHost)).prepare batch).run c').1 = .ok body →
      ActsOn id c ((r.storage (Network.ofServer readHost)).operate id.object body)
        (Store.writeEntries id batch)
  mapSize : ∀ c : Connection, c.tables.HasPool id.pool →
    ActsOn id c ((r.storage (Network.ofServer readHost)).mapSize id.object) (Store.mapSize id)

/-- There is a session exactly if there is the pool that was named, and
it works on the object that was named. -/
structure AddressesExactly (readHost : HostReader) (base : String) (id : ObjectId) : Prop where
  connects : ∀ c : Connection,
    ((RemoteSession.connect (Network.ofServer readHost) base id.pool).run c).1.isOk = true ↔
      c.tables.HasPool id.pool
  works : ∀ (c c' : Connection) (r : RemoteSession),
    (RemoteSession.connect (Network.ofServer readHost) base id.pool).run c = (.ok r, c') →
      WorksOn readHost r id

/-- A request that acts like an operation which spares other objects acts on
one object only. -/
theorem ActsAt.actsOn {id : ObjectId} {c : Connection}
    {act : StateM Connection (Except SessionError α)} {op : StoreM α} (h : ActsAt c act op)
    (hop : Store.Spares id op) : ActsOn id c act op :=
  ⟨h, h.2 ▸ hop c⟩

/-- Between plain names, a session works on what was named. All its
addresses are put together of the two names. -/
theorem worksOn_of_plain (h : IsServerUrl readHost base) {id : ObjectId} (hpool : Api.IsPlainName id.pool)
    (hobject : Api.IsPlainName id.object) :
    WorksOn readHost (opened base id.pool) id where
  removeObject c := (actsAs_removeObject h hpool hobject c).actsOn (Store.spares_removeObject id)
  writeObject data c :=
    (actsAs_writeObject h hpool hobject data c).actsOn (Store.spares_replaceData id data)
  operate batch body c c' hprepared := by
    obtain rfl : batch.encode = body := Except.ok.inj hprepared
    exact (actsAs_operate h hpool hobject batch c).actsOn (Store.spares_writeEntries id batch)
  mapSize c hhas := (actsAt_mapSize h hpool hobject hhas).actsOn (Store.spares_mapSize id)

/-! ### Names that are not plain -/

/-- A store that has one pool and nothing else. Whether a name reaches that
pool can be seen from an answer. -/
def onePool (pool : String) : Connection :=
  .fresh ⟨some ((∅ : ExtTreeSet String).insert pool), some ∅, some ∅⟩

/-- It has the pool. -/
theorem hasPool_onePool (pool : String) : (onePool pool).tables.HasPool pool :=
  ⟨_, rfl, ExtTreeSet.mem_insert_self⟩

/-- And it has no other one, so a success tells which pool was reached. -/
theorem eq_of_hasPool_onePool {other : String} (h : (onePool pool).tables.HasPool other) :
    other = pool := by
  obtain ⟨ps, hps, hmem⟩ := h
  obtain rfl := Option.some.inj hps
  rcases ExtTreeSet.mem_insert.mp hmem with heq | hnone
  · exact (Std.compare_eq_iff_eq.mp heq).symm
  · exact absurd hnone ExtTreeSet.not_mem_empty

/-- The same store with one object, that has no data and no map. Whether a
name reaches that object can be seen when it is removed. -/
def oneObject (id : ObjectId) : Connection :=
  (onePool id.pool).withTables
    ⟨some ((∅ : ExtTreeSet String).insert id.pool), some ((∅ : Objects).insert id []), some ∅⟩

/-- It has one pool, too. -/
theorem eq_of_hasPool_oneObject {id : ObjectId} {other : String}
    (h : (oneObject id).tables.HasPool other) : other = id.pool :=
  have hone : (onePool id.pool).tables.HasPool other := h
  eq_of_hasPool_onePool hone

/-- In the pool of that object, whatever is removed loses its row. The map
is empty before and after. -/
theorem run_removeObject_oneObject (id : ObjectId) (object : String) :
    (Store.removeObject ⟨id.pool, object⟩).run (oneObject id) =
      (.ok (), (oneObject id).withTables ⟨some ((∅ : ExtTreeSet String).insert id.pool),
        some (((∅ : Objects).insert id []).erase ⟨id.pool, object⟩),
        some (Entries.notOf ⟨id.pool, object⟩ ∅)⟩) := by
  rw [Store.run_removeObject rfl]
  exact if_pos ExtTreeSet.mem_insert_self

/-- If what was removed is the object, it was named so. Any other name would
have left its row. -/
theorem eq_of_removeObject_oneObject {id : ObjectId}
    (h : ((Store.removeObject ⟨id.pool, object⟩).run (oneObject id)).2 =
      ((Store.removeObject id).run (oneObject id)).2) : id.object = object := by
  have hself : (Store.removeObject id).run (oneObject id) =
      (Store.removeObject ⟨id.pool, id.object⟩).run (oneObject id) := rfl
  rw [hself, run_removeObject_oneObject, run_removeObject_oneObject] at h
  have hobjects : ((∅ : Objects).insert id []).erase ⟨id.pool, object⟩ =
      ((∅ : Objects).insert id []).erase id :=
    Option.some.inj (congrArg (fun c : Connection => c.tables.objects) h)
  refine Classical.byContradiction fun hne => ?_
  -- Under another name its row would have been left.
  have hleft : id ∈ ((∅ : Objects).insert id []).erase ⟨id.pool, object⟩ := by
    refine ExtTreeMap.mem_erase.mpr ⟨fun heq => ?_, ExtTreeMap.mem_insert_self⟩
    exact hne (congrArg ObjectId.object (Std.compare_eq_iff_eq.mp heq)).symm
  rw [hobjects] at hleft
  exact (ExtTreeMap.mem_erase.mp hleft).1 Std.ReflCmp.compare_self

/-- A request that is answered as a success has a route, of the names
that the server sees. -/
theorem exists_route_of_isSuccess {method target : String} {text : List Char} {body : List UInt8}
    {c : Connection} (htarget : Api.pieces? target = Api.seen? text)
    (h : isSuccess ((Api.outcome ⟨method, target, body⟩).run c).1.answer.status = true) :
    ∃ names route, Api.seen? text = some names ∧ Api.Route.ofPieces? method names = some route ∧
      Api.Route.of? method target = some route := by
  cases hroute : Api.Route.of? method target with
  | some route =>
    have hpieces := hroute
    rw [Api.Route.of?, htarget, Option.bind_eq_some_iff] at hpieces
    obtain ⟨names, hseen, hpieces⟩ := hpieces
    exact ⟨names, route, hseen, hpieces, rfl⟩
  | none =>
    rw [Api.outcome_of_noRoute hroute] at h
    exact absurd h Bool.false_ne_true

/-- A request that needs a pool is no success if that isn't there. So a
success on one of these stores says much. -/
theorem hasPool_of_isSuccess {p : String} {rest : Unit → StoreM α} {good : α → Api.Outcome}
    {c : Connection} (h : isSuccess (Api.Outcome.ofResult good
      ((Store.needPool p >>= rest).run c).1).answer.status = true) : c.tables.HasPool p := by
  refine Classical.byContradiction fun hhas => ?_
  obtain ⟨e, he⟩ := Store.run_needPool_of_not_hasPool hhas
  rw [Store.run_bind, he] at h
  exact absurd h (Bool.eq_false_iff.mp (Api.Outcome.isSuccess_ofError e))

/-- What a session takes for a success was answered as one. -/
theorem isSuccess_of_judged {url : String} {answer : Api.Answer}
    (h : Ending.of ((judged url answer).map fun _ => ()) = Ending.done ()) :
    isSuccess answer.status = true := by
  rw [judged] at h
  split at h
  · assumption
  · cases h

/-- If the only pool there is can be found under its name, the name is
plain. -/
theorem isPlainName_of_connect (h : IsServerUrl readHost base)
    (hok : ((RemoteSession.connect (Network.ofServer readHost) base pool).run (onePool pool)).1.isOk = true) :
    Api.IsPlainName pool := by
  obtain ⟨target, htarget, hsend⟩ := h.run_send (Api.toList_poolPath pool)
  have hanswer := hsend "GET" none [] (onePool pool)
  rw [run_connect_of_answer hanswer] at hok
  have hsuccess : isSuccess
      ((Api.outcome ⟨"GET", target, []⟩).run (onePool pool)).1.answer.status = true := by
    rw [status_of_connected hok]
    rfl
  obtain ⟨names, route, hseen, hpieces, hroute⟩ := exists_route_of_isSuccess htarget hsuccess
  have hfront : ∀ name ∈ ["v1", "pools"], Api.IsPlainName name :=
    Api.plainNames (by simp [Api.fixedNames])
  -- A name can make the request one for the count of a map, which looks for a pool, too.
  rcases Api.eq_of_ofPieces?_get hpieces with ⟨other, rfl, rfl⟩ | ⟨id, rfl, rfl⟩
  · have hfound : Api.Action.run (.findPool other) =
        Api.Outcome.ofStore (Store.needPool other >>= pure) fun _ => .done := by
      rw [bind_pure]
      rfl
    rw [Api.outcome_of_route hroute rfl, hfound, Api.Outcome.run_ofStore] at hsuccess
    obtain rfl := eq_of_hasPool_onePool (hasPool_of_isSuccess hsuccess)
    exact Api.isPlainName_of_seen?_joined hfront hseen (by simp) (by simp)
  · have hcounted : Api.Action.run (.countEntries id) = Api.Outcome.ofStore
        (Store.needPool id.pool >>= fun _ => Store.mapSize id) .counted := rfl
    rw [Api.outcome_of_route hroute rfl, hcounted, Api.Outcome.run_ofStore] at hsuccess
    have hpool := eq_of_hasPool_onePool (hasPool_of_isSuccess hsuccess)
    exact Api.isPlainName_of_seen?_joined hfront hseen (by simp [hpool]) (by simp)

/-- If an object is removed under its name, the name is plain. Any other
name ends the path earlier or leads elsewhere in it. -/
theorem isPlainName_of_removeObject (h : IsServerUrl readHost base) (hpool : Api.IsPlainName pool)
    (hacts : ActsAt (oneObject ⟨pool, object⟩)
      (((opened base pool).storage (Network.ofServer readHost)).removeObject object)
      (Store.removeObject ⟨pool, object⟩)) : Api.IsPlainName object := by
  obtain ⟨target, htarget, hsend⟩ := h.run_send (Api.toList_objectPath pool object)
  have hrun : (((opened base pool).storage (Network.ofServer readHost)).removeObject object).run
      (oneObject ⟨pool, object⟩) = _ :=
    run_submit_of_answer (hsend "DELETE" none [] (oneObject ⟨pool, object⟩))
  obtain ⟨hending, hplace⟩ := hacts
  have hremoved := run_removeObject_oneObject ⟨pool, object⟩ object
  rw [hrun, hremoved] at hending
  have hsuccess := isSuccess_of_judged hending
  obtain ⟨names, route, hseen, hpieces, hroute⟩ := exists_route_of_isSuccess htarget hsuccess
  obtain ⟨id, rfl, rfl⟩ := Api.eq_of_ofPieces?_delete hpieces
  have hasked : Api.Action.run (.removeObject id) = Api.Outcome.ofStore
      (Store.needPool id.pool >>= fun _ => Store.deleteAll id) fun _ => .done := rfl
  rw [hrun] at hplace
  rw [Api.outcome_of_route hroute rfl, hasked, Api.Outcome.run_ofStore] at hsuccess hplace
  obtain rfl : id.pool = pool := eq_of_hasPool_oneObject (hasPool_of_isSuccess hsuccess)
  -- The server saw an object of the pool, and the row that is gone tells
  -- which one.
  have hgone : ((Store.removeObject ⟨id.pool, id.object⟩).run (oneObject ⟨id.pool, object⟩)).2 =
      ((Store.removeObject ⟨id.pool, object⟩).run (oneObject ⟨id.pool, object⟩)).2 := hplace
  have hobject : object = id.object := eq_of_removeObject_oneObject hgone
  have hfront : ∀ name ∈ ["v1", "pools", id.pool, "objects"], Api.IsPlainName name :=
    Api.plainNames (by simp [Api.fixedNames, hpool])
  exact Api.isPlainName_of_seen?_joined hfront hseen (by simp [hobject]) (by simp)

/-- What a session reaches is exactly what was named, if the names of
the pool and of the object are plain, and only then. -/
theorem addressesExactly_iff (h : IsServerUrl readHost base) (id : ObjectId) :
    AddressesExactly readHost base id ↔ Api.IsPlainName id.pool ∧ Api.IsPlainName id.object := by
  constructor
  · intro hexact
    have hok := (hexact.connects (onePool id.pool)).mpr (hasPool_onePool id.pool)
    have hpool := isPlainName_of_connect h hok
    have hworks := hexact.works _ _ _ (run_connect_of_hasPool h hpool (hasPool_onePool id.pool))
    exact ⟨hpool, isPlainName_of_removeObject h hpool (hworks.removeObject (oneObject id)).1⟩
  · rintro ⟨hpool, hobject⟩
    refine ⟨isOk_connect_iff h hpool, fun c c' r hconnect => ?_⟩
    rw [run_connect h hpool] at hconnect
    obtain rfl := eq_opened_of_connected (Prod.mk.inj hconnect).1
    exact worksOn_of_plain h hpool hobject

/-- A query that is part of a name is lost on the way, so another object
is reached. -/
theorem addressesExactly_iff_hw :
    IsServerUrl asciiHost "http://localhost:3000" ∧
      AddressesExactly asciiHost "http://localhost:3000" ⟨"ben", "hw"⟩ ∧
      ¬ AddressesExactly asciiHost "http://localhost:3000" ⟨"ben", "hw?x"⟩ := by
  have hplain : Api.IsPlainName "ben" ∧ Api.IsPlainName "hw" := by decide
  have hquery : ¬ Api.IsPlainName "hw?x" := by decide
  refine ⟨isServerUrl_localhost, ?_, fun hexact => ?_⟩
  · exact (addressesExactly_iff isServerUrl_localhost ⟨"ben", "hw"⟩).mpr hplain
  · exact hquery ((addressesExactly_iff isServerUrl_localhost ⟨"ben", "hw?x"⟩).mp hexact).2

end MapBench
