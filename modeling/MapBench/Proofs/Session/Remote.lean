import MapBench.Proofs.Api.Handle
import MapBench.Proofs.Api.Path
import MapBench.Proofs.Batch.Wire
import MapBench.Proofs.Session.Calls
import MapBench.Proofs.Store.Operations

/-!
# `MapBench.Proofs.Session.Remote`: a session and the store behind it

A session with a server works on a store that it never sees. What it
asks for goes through an address, a route and an answer, and comes out
at the other end as an operation of the store.

* `IsServerUrl`: the address of a server.
* `ActsAs`: what is asked for has the effect of an operation of the
  store, and ends like it.
* `actsAs_removeObject`, `actsAs_writeObject`, `actsAs_operate`,
  `actsAt_mapSize`: the operations of a session act as those of the
  store on the object that was named, if the names are plain.
* `isOk_connect_iff`: there is a session exactly if there is the pool.
-/

set_option autoImplicit false

namespace MapBench

open Url RemoteSession

variable {α : Type} {readHost : HostReader} {base path pool object : String} {rest : List Char}

/-! ### The address of a server -/

/-- The address of a server: a scheme and a site, and perhaps slashes
behind them. -/
structure IsServerUrl (readHost : HostReader) (base : String) : Prop where
  form : ∃ scheme site slashes, IsWeb scheme ∧ IsSite site ∧
    base.toList = scheme.toList ++ ':' :: '/' :: '/' :: (site ++ List.replicate slashes '/')
  parses : (Url.parse readHost base).isOk = true

/-- Such an address is that of a server on the same machine. -/
theorem isServerUrl_localhost : IsServerUrl asciiHost "http://localhost:3000" where
  form := ⟨"http", "localhost:3000".toList, 0, .inl rfl, by decide, rfl⟩
  parses := by decide

/-- Of an address only the slashes behind its site are left out. -/
theorem toList_trimSlashes (front : List Char) {site : List Char} (hsite : IsSite site) (slashes : Nat)
    (h : base.toList = front ++ (site ++ List.replicate slashes '/')) :
    (trimSlashes base).toList = front ++ site := by
  have hslashes : ∀ c ∈ List.replicate slashes '/', (c == '/') = true := by
    intro c hc
    rw [List.eq_of_mem_replicate hc]
    rfl
  have hsite' : (site.reverse ++ front.reverse).dropWhile (· == '/') =
      site.reverse ++ front.reverse := by
    obtain ⟨c, cs, hcons⟩ := List.exists_cons_of_ne_nil (List.reverse_ne_nil_iff.mpr hsite.ne_nil)
    have hmem : c ∈ site := List.mem_reverse.mp (hcons ▸ List.mem_cons_self)
    have hc : (c == '/') = false := by
      refine beq_false_of_ne fun he => ?_
      have hkept := (hsite.kept c hmem).2.1
      rw [he] at hkept
      exact absurd hkept (by decide)
    rw [hcons, List.cons_append, List.dropWhile_cons, hc]
    rfl
  rw [trimSlashes, String.toList_ofList, h, List.reverse_append, List.reverse_append,
    List.reverse_replicate, List.append_assoc, List.dropWhile_append_of_pos hslashes, hsite',
    List.reverse_append, List.reverse_reverse, List.reverse_reverse]

/-- The address of a server leads to a site, and so does the address with a
path behind it. Of that path the server sees what it sees of any text. -/
theorem IsServerUrl.exists_site (h : IsServerUrl readHost base) :
    ∃ site, (∃ u, Url.parse readHost (trimSlashes base) = .ok u ∧ u.site = site) ∧
      ∀ path rest, path.toList = '/' :: rest → ∃ u, Url.parse readHost (trimSlashes base ++ path) = .ok u ∧
        u.site = site ∧ Api.pieces? u.target = Api.seen? rest := by
  obtain ⟨scheme, site, slashes, hscheme, hsite, hbase⟩ := h.form
  have htrim : (trimSlashes base).toList = scheme.toList ++ ':' :: '/' :: '/' :: site := by
    have hfront := toList_trimSlashes (scheme.toList ++ [':', '/', '/']) hsite slashes
      (by simpa using hbase)
    simpa using hfront
  have hslashes : List.replicate slashes '/' = [] ∨ ∃ r, List.replicate slashes '/' = '/' :: r := by
    cases slashes with
    | zero => exact .inl rfl
    | succ n => exact .inr ⟨List.replicate n '/', rfl⟩
  -- The site is read in the same way, whatever stands behind it.
  obtain ⟨_, _, hparse⟩ := parse_behind readHost hscheme hsite hslashes hbase
  obtain ⟨query, fragment, hparse'⟩ := parse_behind readHost hscheme hsite (.inl rfl) (by simpa using htrim)
  have hok := h.parses
  rw [hparse] at hok
  cases hread : readSite readHost scheme site with
  | error e =>
    rw [hread] at hok
    exact absurd hok Bool.false_ne_true
  | ok parts =>
    rw [hread] at hparse'
    refine ⟨⟨scheme, String.ofList parts.1, parts.2⟩, ⟨_, hparse', rfl⟩, fun path rest hpath => ?_⟩
    have htext : (trimSlashes base ++ path).toList =
        scheme.toList ++ ':' :: '/' :: '/' :: (site ++ '/' :: rest) := by
      rw [String.toList_append, htrim, hpath]
      simp
    obtain ⟨query, fragment, hbehind⟩ := parse_behind readHost hscheme hsite (.inr ⟨rest, rfl⟩) htext
    rw [hread] at hbehind
    exact ⟨_, hbehind, rfl, Api.pieces?_target rfl⟩

/-! ### Sending requests -/

section

variable {m : Type → Type} [Monad m] (net : Network m) {text : String}

/-- A request to an address that can be read is carried there. What went
wrong on the way is told together with the address. -/
theorem Network.send_of_parse {u : Url} (h : Url.parse net.readHost text = .ok u) (method : String)
    (contentType : Option String) (body : List UInt8) : net.send method text contentType body = do
      return (← net.carry ⟨method, u, contentType, body⟩).mapError (.failed u) := by
  rw [send, h]
  refine congrArg (net.carry ⟨method, u, contentType, body⟩ >>= ·) (funext fun result => ?_)
  cases result <;> rfl

/-- A request to any other text is sent to nobody. The error tells what is
wrong with the text. -/
theorem Network.send_of_parse_error {why : UrlError} (h : Url.parse net.readHost text = .error why)
    (method : String) (contentType : Option String) (body : List UInt8) :
    net.send method text contentType body = pure (.error (.badUrl why)) := by
  rw [send, h]

end

/-- A request gets the answer of the server, and does to the store what
the server does. -/
theorem IsServerUrl.run_send (h : IsServerUrl readHost base) (hpath : path.toList = '/' :: rest) :
    ∃ target, Api.pieces? target = Api.seen? rest ∧
      ∀ method contentType body (c : Connection),
        ((Network.ofServer readHost).send method (trimSlashes base ++ path) contentType body).run c =
          (.ok ((Api.outcome ⟨method, target, body⟩).run c).1.answer,
            ((Api.outcome ⟨method, target, body⟩).run c).2) := by
  obtain ⟨_, -, hbehind⟩ := h.exists_site
  obtain ⟨u, hparse, -, hseen⟩ := hbehind path rest hpath
  refine ⟨u.target, hseen, fun method contentType body c => ?_⟩
  rw [Network.send_of_parse (Network.ofServer readHost) hparse]
  rfl

/-- The session that is there after a successful connect. It is told by its
address and its pool. -/
def RemoteSession.opened (base pool : String) : RemoteSession :=
  ⟨true, trimSlashes base, pool⟩

/-- The session that comes of an answer. Only the status is looked at, and
only one of them will do. -/
def connected (base pool : String) (answer : Api.Answer) : Except SessionError RemoteSession :=
  if answer.status = 200 then .ok (opened base pool)
  else .error (.poolOpen pool (.answered answer.status))

/-- A session that comes of an answer is the opened one. -/
theorem eq_opened_of_connected {answer : Api.Answer} {r : RemoteSession}
    (h : connected base pool answer = .ok r) : r = opened base pool := by
  rw [connected] at h
  split at h
  · exact (Except.ok.inj h).symm
  · cases h

/-- And the status of the answer was 200. -/
theorem status_of_connected {answer : Api.Answer} (h : (connected base pool answer).isOk = true) :
    answer.status = 200 := by
  rw [connected] at h
  split at h
  · assumption
  · exact absurd h Bool.false_ne_true

/-- What is made of the answer when someone connects. There is one request,
whatever comes of it. -/
theorem RemoteSession.run_connect_eq {σ : Type} (net : Network (StateM σ)) (base pool : String) (x : σ) :
    (RemoteSession.connect net base pool).run x =
      (match ((net.send "GET" (trimSlashes base ++ Api.poolPath pool) none []).run x).1 with
        | .ok answer => connected base pool answer
        | .error e => .error (.poolOpen pool (.transport e)),
        ((net.send "GET" (trimSlashes base ++ Api.poolPath pool) none []).run x).2) := by
  have hurl : (opened base pool).url (Api.poolPath pool) = trimSlashes base ++ Api.poolPath pool :=
    rfl
  rw [RemoteSession.connect, ← opened, hurl, StateT.run_bind]
  rcases (net.send "GET" (trimSlashes base ++ Api.poolPath pool) none []).run x with ⟨e | answer, y⟩
  · rfl
  · show StateT.run (if answer.status = 200 then pure (.ok (opened base pool))
      else pure (.error (.poolOpen pool (.answered answer.status))) :
        StateM σ (Except SessionError RemoteSession)) y = (connected base pool answer, y)
    rw [connected]
    split <;> rfl

/-- With a server that answers, connecting comes to what the answer says. -/
theorem run_connect_of_answer {answer : Api.Answer} {c c' : Connection}
    (h : ((Network.ofServer readHost).send "GET" (trimSlashes base ++ Api.poolPath pool) none []).run c =
      (.ok answer, c')) :
    (RemoteSession.connect (Network.ofServer readHost) base pool).run c =
      (connected base pool answer, c') := by
  rw [RemoteSession.run_connect_eq, h]

/-- The count in an answer. A body that isn't a count is an error, though
the status was one of success. -/
def countOf (answer : Api.Answer) : Except SessionError Nat :=
  match Count.decode? answer.body with
  | some count => .ok count
  | none => .error (.request .badAnswer)

/-- A count that was told is read as it was, as long as it is a word. -/
theorem countOf_counted {n : Nat} (h : n < UInt64.size) : countOf (Api.Outcome.counted n).answer = .ok n := by
  have hword : n ≤ maxWord := Nat.le_of_lt_succ h
  rw [countOf, Api.Outcome.answer, Count.decode?_encode hword]

/-- Counting reads the count in the answer, if there is one. -/
theorem run_mapSize_of_send {result : Except SessionError Api.Answer} {c c' : Connection}
    (h : ((opened base pool).send (Network.ofServer readHost) "GET" (Api.countPath pool object) none
      []).run c = (result, c')) :
    (((opened base pool).storage (Network.ofServer readHost)).mapSize object).run c =
      (result.bind countOf, c') := by
  have hpool : (opened base pool).pool = pool := rfl
  simp only [storage, hpool]
  rw [StateT.run_bind, h]
  cases result with
  | error e => rfl
  | ok answer =>
    have hrest : (match Count.decode? answer.body with
        | some count => return .ok count
        | none => return .error (.request .badAnswer) :
          StateM Connection (Except SessionError Nat)) = pure (countOf answer) := by
      rw [countOf]
      cases Count.decode? answer.body <;> rfl
    exact congrArg (StateT.run · c') hrest

/-- On a store, what is asked for has the effect of an operation, and
ends like it. -/
def ActsAt (c : Connection) (act : StateM Connection (Except SessionError α)) (op : StoreM α) : Prop :=
  Ending.of (act.run c).1 = Ending.ofStore (op.run c).1 ∧ (act.run c).2 = (op.run c).2

/-- It does so on every store. Requests for a count only act so where the
pool is, since they look for it in a call of their own. -/
def ActsAs (act : StateM Connection (Except SessionError α)) (op : StoreM α) : Prop :=
  ∀ c, ActsAt c act op

/-- What a session takes from an answer to a request for an address. Any
success will do. -/
def judged (url : String) (answer : Api.Answer) : Except SessionError Api.Answer :=
  if isSuccess answer.status then .ok answer else .error (.rejected url answer.status)

/-- What an open session makes of what it hears. Errors of the transport and
bad statuses are told apart. -/
theorem RemoteSession.run_send_of_open {σ : Type} {s : RemoteSession} (hopen : s.isOpen = true)
    (net : Network (StateM σ)) (method path : String) (contentType : Option String)
    (body : List UInt8) (x : σ) :
    (s.send net method path contentType body).run x =
      (match ((net.send method (s.url path) contentType body).run x).1 with
        | .ok answer => judged (s.url path) answer
        | .error e => .error (.request e),
        ((net.send method (s.url path) contentType body).run x).2) := by
  rw [send, if_pos hopen, StateT.run_bind]
  rcases (net.send method (s.url path) contentType body).run x with ⟨e | answer, y⟩
  · rfl
  · show StateT.run (if isSuccess answer.status = true then pure (.ok answer)
      else pure (.error (.rejected (s.url path) answer.status)) :
        StateM σ (Except SessionError Api.Answer)) y = (judged (s.url path) answer, y)
    rw [judged]
    split <;> rfl

/-- From a server that answers, it hears the answer. -/
theorem run_send_of_answer {method : String} {contentType : Option String} {body : List UInt8}
    {answer : Api.Answer} {c c' : Connection}
    (h : ((Network.ofServer readHost).send method (trimSlashes base ++ path) contentType body).run c =
      (.ok answer, c')) :
    ((opened base pool).send (Network.ofServer readHost) method path contentType body).run c =
      (judged (trimSlashes base ++ path) answer, c') := by
  have hopen : (opened base pool).isOpen = true := rfl
  have hurl : (opened base pool).url path = trimSlashes base ++ path := rfl
  rw [RemoteSession.run_send_of_open hopen, hurl, h]

/-- And it forgets the body if all that matters is success. -/
theorem run_submit_of_answer {method : String} {contentType : Option String} {body : List UInt8}
    {answer : Api.Answer} {c c' : Connection}
    (h : ((Network.ofServer readHost).send method (trimSlashes base ++ path) contentType body).run c =
      (.ok answer, c')) :
    ((opened base pool).submit (Network.ofServer readHost) method path contentType body).run c =
      ((judged (trimSlashes base ++ path) answer).map fun _ => (), c') := by
  rw [RemoteSession.submit, StateT.run_bind, run_send_of_answer h]
  rfl

/-- The answer to a request is a success exactly if the operation was
one, and tells what came of it. -/
theorem IsServerUrl.run_sendOpen (h : IsServerUrl readHost base) (hpath : path.toList = '/' :: rest)
    {method : String} {body : List UInt8} {route : Api.Route} {action : Api.Action} {op : StoreM α}
    {good : α → Api.Outcome} (hgood : ∀ a, isSuccess (good a).answer.status = true)
    (hroute : (Api.seen? rest).bind (Api.Route.ofPieces? method) = some route)
    (haction : route.action body = .ok action) (hrun : action.run = Api.Outcome.ofStore op good)
    (pool : String) (contentType : Option String) (c : Connection) :
    ((opened base pool).send (Network.ofServer readHost) method path contentType body).run c =
      (match (op.run c).1 with
        | .ok a => .ok (good a).answer
        | .error e => .error (.rejected (trimSlashes base ++ path)
            (Api.Outcome.ofError e).answer.status), (op.run c).2) := by
  obtain ⟨target, hseen, hsend⟩ := h.run_send hpath
  have hroute' : Api.Route.of? method target = some route := by
    rw [Api.Route.of?, hseen, hroute]
  have hanswer := hsend method contentType body c
  rw [Api.outcome_of_route hroute' haction, hrun, Api.Outcome.run_ofStore] at hanswer
  rw [run_send_of_answer hanswer]
  -- Only the status tells the session whether the operation succeeded.
  cases (op.run c).1 with
  | ok a =>
    have hok : judged (trimSlashes base ++ path) (good a).answer = .ok (good a).answer :=
      if_pos (hgood a)
    rw [Api.Outcome.ofResult, hok]
  | error e =>
    have herror : judged (trimSlashes base ++ path) (Api.Outcome.ofError e).answer =
        .error (.rejected (trimSlashes base ++ path) (Api.Outcome.ofError e).answer.status) :=
      if_neg (Bool.eq_false_iff.mp (Api.Outcome.isSuccess_ofError e))
    rw [Api.Outcome.ofResult, herror]

/-- A request whose answer has nothing to tell acts as the operation of
its action. -/
theorem IsServerUrl.actsAs_submit (h : IsServerUrl readHost base) (hpath : path.toList = '/' :: rest)
    {method : String} {body : List UInt8} {route : Api.Route} {action : Api.Action} {op : StoreM Unit}
    (hroute : (Api.seen? rest).bind (Api.Route.ofPieces? method) = some route)
    (haction : route.action body = .ok action)
    (hrun : action.run = Api.Outcome.ofStore op fun _ => .done) (contentType : Option String) :
    ActsAs ((opened base pool).submit (Network.ofServer readHost) method path contentType body) op := by
  intro c
  rw [ActsAt, RemoteSession.submit, StateT.run_bind,
    h.run_sendOpen hpath (fun _ => rfl) hroute haction hrun pool contentType c]
  cases (op.run c).1 <;> exact ⟨rfl, rfl⟩

/-! ### The operations of a session -/

section

variable (h : IsServerUrl readHost base) (hpool : Api.IsPlainName pool) (hobject : Api.IsPlainName object)
include h hpool

/-- A session comes of looking for the pool. Nothing is made, unlike with a
store file. -/
theorem run_connect (c : Connection) :
    (RemoteSession.connect (Network.ofServer readHost) base pool).run c =
      (connected base pool (Api.Outcome.ofResult (fun _ => .done)
        ((Store.needPool pool).run c).1).answer, ((Store.needPool pool).run c).2) := by
  obtain ⟨target, htarget, hsend⟩ := h.run_send (Api.toList_poolPath pool)
  have hroute : Api.Route.of? "GET" target = some (.findPool pool) := by
    rw [Api.Route.of?, htarget]
    exact Api.bind_seen?_joined (List.cons_ne_nil _ _) (by simp [Api.fixedNames, hpool]) "GET"
  have hfound : Api.Action.run (.findPool pool) =
      Api.Outcome.ofStore (Store.needPool pool) fun _ => .done := rfl
  have hanswer := hsend "GET" none [] c
  rw [Api.outcome_of_route hroute rfl, hfound, Api.Outcome.run_ofStore] at hanswer
  exact run_connect_of_answer hanswer

/-- If the pool is there, the session is opened and the store isn't touched. -/
theorem run_connect_of_hasPool {c : Connection} (hhas : c.tables.HasPool pool) :
    (RemoteSession.connect (Network.ofServer readHost) base pool).run c = (.ok (opened base pool), c) := by
  rw [run_connect h hpool, Store.run_needPool_of_hasPool hhas]
  rfl

/-- If it isn't, there is no session, and the store isn't touched either. -/
theorem run_connect_of_not_hasPool {c : Connection} (hhas : ¬ c.tables.HasPool pool) :
    ∃ e, (RemoteSession.connect (Network.ofServer readHost) base pool).run c = (.error e, c) := by
  obtain ⟨cause, hcause⟩ := Store.run_needPool_of_not_hasPool hhas
  rw [run_connect h hpool, hcause]
  cases cause <;> exact ⟨_, rfl⟩

/-- There is a session exactly if there is the pool. So a name that means
another pool to the server connects to that one. -/
theorem isOk_connect_iff (c : Connection) :
    ((RemoteSession.connect (Network.ofServer readHost) base pool).run c).1.isOk = true ↔
      c.tables.HasPool pool := by
  by_cases hhas : c.tables.HasPool pool
  · rw [run_connect_of_hasPool h hpool hhas]
    exact ⟨fun _ => hhas, fun _ => rfl⟩
  · obtain ⟨e, he⟩ := run_connect_of_not_hasPool h hpool hhas
    rw [he]
    exact ⟨fun hok => absurd hok Bool.false_ne_true, fun hhas' => absurd hhas' hhas⟩

include hobject

/-- Removing an object acts as removing it from the store. -/
theorem actsAs_removeObject :
    ActsAs (((opened base pool).storage (Network.ofServer readHost)).removeObject object)
      (Store.removeObject ⟨pool, object⟩) := by
  have hroute : (Api.seen? (Api.joined ["v1", "pools", pool, "objects", object])).bind
      (Api.Route.ofPieces? "DELETE") = some (.removeObject ⟨pool, object⟩) :=
    Api.bind_seen?_joined (List.cons_ne_nil _ _) (by simp [Api.fixedNames, hpool, hobject]) "DELETE"
  exact h.actsAs_submit (Api.toList_objectPath pool object) hroute rfl rfl none

/-- Writing data acts as replacing the data in the store. -/
theorem actsAs_writeObject (data : List UInt8) :
    ActsAs (((opened base pool).storage (Network.ofServer readHost)).writeObject object data)
      (Store.replaceData ⟨pool, object⟩ data) := by
  have hroute : (Api.seen? (Api.joined ["v1", "pools", pool, "objects", object])).bind
      (Api.Route.ofPieces? "PUT") = some (.writeObject ⟨pool, object⟩) :=
    Api.bind_seen?_joined (List.cons_ne_nil _ _) (by simp [Api.fixedNames, hpool, hobject]) "PUT"
  exact h.actsAs_submit (Api.toList_objectPath pool object) hroute rfl rfl none

/-- Applying an encoded batch acts as writing its entries. It is read back
as the batch that it was. -/
theorem actsAs_operate (batch : Batch) :
    ActsAs (((opened base pool).storage (Network.ofServer readHost)).operate object batch.encode)
      (Store.writeEntries ⟨pool, object⟩ batch) := by
  have hroute : (Api.seen? (Api.joined ["v1", "pools", pool, "objects", object, "omap"])).bind
      (Api.Route.ofPieces? "POST") = some (.writeEntries ⟨pool, object⟩) :=
    Api.bind_seen?_joined (List.cons_ne_nil _ _) (by simp [Api.fixedNames, hpool, hobject]) "POST"
  have haction : Api.Route.action batch.encode (.writeEntries ⟨pool, object⟩) =
      .ok (.writeEntries ⟨pool, object⟩ batch) := by
    rw [Api.Route.action, Batch.decode?_encode]
  exact h.actsAs_submit (Api.toList_mapPath pool object) hroute haction rfl _

/-- Counting looks for the pool first, which changes nothing if there is
one. -/
theorem actsAt_mapSize {c : Connection} (hhas : c.tables.HasPool pool) :
    ActsAt c (((opened base pool).storage (Network.ofServer readHost)).mapSize object)
      (Store.mapSize ⟨pool, object⟩) := by
  have hroute : (Api.seen? (Api.joined ["v1", "pools", pool, "objects", object, "omap", "count"])).bind
      (Api.Route.ofPieces? "GET") = some (.countEntries ⟨pool, object⟩) :=
    Api.bind_seen?_joined (List.cons_ne_nil _ _) (by simp [Api.fixedNames, hpool, hobject]) "GET"
  have haction : Api.Route.action [] (.countEntries ⟨pool, object⟩) =
      .ok (.countEntries ⟨pool, object⟩) := rfl
  have hcount : Api.Action.run (.countEntries ⟨pool, object⟩) = Api.Outcome.ofStore
      (do Store.needPool pool; Store.mapSize ⟨pool, object⟩) .counted := rfl
  have hsend := h.run_sendOpen (Api.toList_countPath pool object) (fun _ => rfl) hroute haction hcount
    pool none c
  rw [Store.run_bind, Store.run_needPool_of_hasPool hhas] at hsend
  rw [ActsAt, run_mapSize_of_send hsend]
  cases hresult : ((Store.mapSize ⟨pool, object⟩).run c).1 with
  | ok n =>
    refine ⟨?_, rfl⟩
    show Ending.of (countOf (Api.Outcome.counted n).answer) = _
    rw [countOf_counted (Store.mapSize_lt hresult)]
    rfl
  | error e => exact ⟨rfl, rfl⟩

end

end MapBench
