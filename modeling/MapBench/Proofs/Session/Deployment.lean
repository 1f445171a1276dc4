import MapBench.Proofs.Api.Changes
import MapBench.Proofs.Server.Pools
import MapBench.Proofs.Session.Lifecycle
import MapBench.Proofs.Session.Remote
import MapBench.Proofs.Store.AllStores

/-!
# `MapBench.Proofs.Session.Deployment`: sessions and servers on one disk

Servers are started and stopped, sessions are opened with files and with
servers, and all of them work on the stores of one disk. Whatever happens,
what the stores hold is told by the changes that were asked of them.

* `Network.ofServers`: a network of servers that answer from these stores.
* `Deployment`, `DeploymentEvent`: a disk with its servers and sessions,
  and what can happen to it.
* `Deployment.asks`, `Deployment.history`: the changes that an event asks
  for, and those of events one after another.
* `Deployment.shows_next`, `Deployment.shows_run`: what the stores hold
  after an event, and after many.
-/

set_option autoImplicit false

namespace MapBench

open Url

/-! ### Servers on a disk -/

/-- Servers that work on the stores of a disk, and how the hosts that they
are found by are read. For each site there is the handle with which the
server there works, if there is one. -/
structure Servers where
  readHost : HostReader
  handle? : Site → Option Nat

namespace Servers

/-- A server begins to listen at a site, unless someone does already. The
second one opens its store nevertheless. -/
def listen (serving : Servers) (site : Site) (handle : Nat) : Servers where
  readHost := serving.readHost
  handle? other :=
    if other = site then (serving.handle? site).or (some handle) else serving.handle? other

/-- Nobody listens at a site any more. What was written stays on the disk. -/
def leave (serving : Servers) (site : Site) : Servers where
  readHost := serving.readHost
  handle? other := if other = site then none else serving.handle? other

end Servers

namespace Network

/-- A network in which servers answer from the stores of a disk. Which of
them gets a request is told by its site alone. -/
def ofServers (serving : Servers) : Network (StateM Disk) where
  readHost := serving.readHost
  carry r :=
    match serving.handle? r.url.site with
    | none => (unreachable serving.readHost).carry r
    | some handle => do
      return (← Disk.answer handle ⟨r.method, r.url.target, r.body⟩).mapError StoreError.message

/-- The handle of the server that a request gets to, and what it sees. There
is none if the address can't be read, or if nobody listens there. -/
def target? (serving : Servers) (method url : String) (body : List UInt8) :
    Option (Nat × Api.Request) := do
  let u ← (Url.parse serving.readHost url).toOption
  let handle ← serving.handle? u.site
  return (handle, ⟨method, u.target, body⟩)

/-- What is asked by someone who sends a request. It is told from the
address as it is read, which need not be what the sender had in mind. -/
def asks (serving : Servers) (d : Disk) (method url : String) (body : List UInt8) :
    List (Nat × StoreChange) :=
  match target? serving method url body with
  | some (handle, r) => d.asks handle r.change?.toList
  | none => []

variable {serving : Servers} {d : Disk}

/-- The server sees the method that was sent. -/
theorem method_of_target? {method url : String} {body : List UInt8} {handle : Nat} {r : Api.Request}
    (h : target? serving method url body = some (handle, r)) : r.method = method := by
  simp only [target?, Option.bind_eq_bind, Option.bind_eq_some_iff] at h
  obtain ⟨u, -, handle', -, heq⟩ := h
  cases heq
  rfl

/-- Who gets something asks for no change, wherever the request gets to. -/
theorem asks_get (serving : Servers) (d : Disk) (url : String) (body : List UInt8) :
    asks serving d "GET" url body = [] := by
  rw [asks]
  split
  next handle r htarget =>
    rw [Api.Request.change?_of_get (method_of_target? htarget), Option.toList_none, Disk.asks_nil]
  next => rfl

/-- What is heard of a request that gets to a server is its answer. If the
store can't be used, an error of the transport is heard instead. -/
theorem exists_run_send_of_target? {method url : String} {body : List UInt8} {handle : Nat}
    {r : Api.Request} (h : target? serving method url body = some (handle, r))
    (contentType : Option String) :
    ∃ fail, ((ofServers serving).send method url contentType body).run d =
      (((Disk.answer handle r).run d).1.mapError fail, ((Disk.answer handle r).run d).2) := by
  simp only [target?, Option.bind_eq_bind, Option.bind_eq_some_iff] at h
  obtain ⟨u, hparse, handle', hsite, heq⟩ := h
  cases heq
  cases hurl : Url.parse serving.readHost url with
  | error why =>
    rw [hurl] at hparse
    cases hparse
  | ok v =>
    rw [hurl] at hparse
    obtain rfl := Option.some.inj hparse
    refine ⟨fun e => .failed v e.message, ?_⟩
    rw [send_of_parse (ofServers serving) hurl, StateT.run_bind]
    simp only [ofServers, hsite, StateT.run_bind]
    rcases (Disk.answer handle ⟨method, v.target, body⟩).run d with ⟨_ | _, d'⟩ <;> rfl

/-- From an open store the server always answers. -/
theorem run_send_of_target? {method url : String} {body : List UInt8} {handle : Nat}
    {r : Api.Request} {c : Connection} (h : target? serving method url body = some (handle, r))
    (hconn : d.connection? handle = some c) (contentType : Option String) :
    ((ofServers serving).send method url contentType body).run d =
      (.ok ((Api.handle r).run c).1, d.putBack handle ((Api.handle r).run c).2) := by
  obtain ⟨fail, hrun⟩ := exists_run_send_of_target? (d := d) h contentType
  rw [hrun, Disk.run_answer hconn]
  rfl

/-- A request that gets to no server is lost. Nothing on the disk is touched
by it. -/
theorem exists_run_send_of_no_target {method url : String} {body : List UInt8}
    (h : target? serving method url body = none) (contentType : Option String) :
    ∃ e, ((ofServers serving).send method url contentType body).run d = (.error e, d) := by
  cases hparse : Url.parse serving.readHost url with
  | error why =>
    rw [send_of_parse_error (ofServers serving) hparse]
    exact ⟨_, rfl⟩
  | ok u =>
    have hsite : serving.handle? u.site = none := by
      rw [target?, hparse] at h
      cases hserving : serving.handle? u.site with
      | none => rfl
      | some handle =>
        rw [Except.toOption, Option.bind_eq_bind, Option.bind_some, hserving] at h
        cases h
    rw [send_of_parse (ofServers serving) hparse]
    simp only [ofServers, hsite]
    exact ⟨_, rfl⟩

/-- A request that is sent is lost, and then nothing is asked of any store,
or the store behind a server answers it. -/
theorem run_send_cases (serving : Servers) (d : Disk) (method url : String)
    (contentType : Option String) (body : List UInt8) :
    (∃ e, ((ofServers serving).send method url contentType body).run d = (.error e, d) ∧
        asks serving d method url body = []) ∨
      ∃ handle r c, target? serving method url body = some (handle, r) ∧
        d.connection? handle = some c ∧ ((ofServers serving).send method url contentType body).run d =
          (.ok ((Api.handle r).run c).1, d.putBack handle ((Api.handle r).run c).2) := by
  rw [asks]
  cases htarget : target? serving method url body with
  | none =>
    obtain ⟨e, hrun⟩ := exists_run_send_of_no_target (d := d) htarget contentType
    exact .inl ⟨e, hrun, rfl⟩
  | some target =>
    obtain ⟨handle, r⟩ := target
    cases hconn : d.connection? handle with
    | none =>
      obtain ⟨fail, hrun⟩ := exists_run_send_of_target? (d := d) htarget contentType
      rw [Disk.answer, Disk.run_onStore_of_none hconn] at hrun
      exact .inl ⟨_, hrun, Disk.asks_of_no_connection hconn _⟩
    | some c => exact .inr ⟨handle, r, c, rfl, hconn, run_send_of_target? htarget hconn contentType⟩

end Network

namespace Disk.Shows

variable {d : Disk} {A : Nat → Contents}

/-- After an answer the stores hold what they should. A handle that isn't
open asks for nothing, so there is nothing to hold then. -/
theorem answer (h : d.Shows A) (handle : Nat) (r : Api.Request) :
    ((Disk.answer handle r).run d).2.Shows (contentsAfter A (d.asks handle r.change?.toList)) := by
  have hop (c : Connection) (C : Contents) (hc : c.tables.Holds C) :
      ((ExceptT.lift (Api.handle r) : StoreM Api.Answer).run c).2.tables.Holds
        (r.change?.toList.foldl Contents.after C) := Api.holds_handle hc r
  exact h.onStore hop handle

/-- So they do after a request that is sent, whether it gets to a server or
not. -/
theorem send (h : d.Shows A) (serving : Servers) (method url : String)
    (contentType : Option String) (body : List UInt8) :
    (((Network.ofServers serving).send method url contentType body).run d).2.Shows
      (contentsAfter A (Network.asks serving d method url body)) := by
  obtain ⟨e, hrun, hasks⟩ | ⟨handle, r, c, htarget, hconn, hrun⟩ :=
    Network.run_send_cases serving d method url contentType body
  · rw [hrun, hasks]
    exact h
  · have hanswer := h.answer handle r
    rw [Disk.run_answer hconn] at hanswer
    rw [hrun, Network.asks, htarget]
    exact hanswer

end Disk.Shows

/-! ### What a session asks for -/

/-- What the body of a request is said to be. Only batches are said to be
anything. -/
def Api.Route.contentType : Api.Route → Option String
  | .writeEntries _ => some "application/json"
  | _ => none

namespace SessionStep

/-- A step that is to change something. To prepare a write isn't one yet. -/
def IsWrite : SessionStep → Prop
  | removeObject _ | writeObject _ _ | operate _ _ | writeBatch _ _ => True
  | prepare _ | mapSize _ | close => False

/-- The name that a step gives, if any. It is the part of an address that
the caller of a session chooses. -/
def object? : SessionStep → Option String
  | removeObject object | writeObject object _ | operate object _ | writeBatch object _
  | mapSize object => some object
  | prepare _ | close => none

/-- The request that a session with a server sends for a step: its route
and its body. -/
def request? (pool : String) : SessionStep → Option (Api.Route × List UInt8)
  | removeObject object => some (.removeObject ⟨pool, object⟩, [])
  | writeObject object data => some (.writeObject ⟨pool, object⟩, data)
  | operate object op => op.body?.map fun bytes => (.writeEntries ⟨pool, object⟩, bytes)
  | writeBatch object batch => some (.writeEntries ⟨pool, object⟩, batch.encode)
  | mapSize object => some (.countEntries ⟨pool, object⟩, [])
  | prepare _ | close => none

/-- A step that writes doesn't get anything, so its method tells the server
that it writes. -/
theorem method_of_request? {pool : String} {step : SessionStep} {route : Api.Route}
    {body : List UInt8} (h : step.request? pool = some (route, body)) (hwrite : step.IsWrite) :
    route.method ≠ "GET" := by
  cases step with
  | operate object op =>
    cases op <;> cases h
    simp [Api.Route.method]
  | prepare batch => cases hwrite
  | mapSize object => cases hwrite
  | close => cases hwrite
  | _ =>
    cases h
    simp [Api.Route.method]

/-- What the session tells of what it heard. Only of a count does it tell
more than that it is done. -/
def replyTo : SessionStep → Except SessionError Api.Answer → SessionReply
  | _, .error e => .failed e
  | mapSize _, .ok answer => .of .counted (countOf answer)
  | _, .ok _ => .done

end SessionStep

namespace Session

/-- The pool of a session. It is fixed when the session is opened. -/
def pool : Session → String
  | onDisk s => s.pool
  | remote s => s.pool

/-- The batch of a write that the session takes. A write of the other kind
has none. -/
def batch? : Session → WriteOp → Option Batch
  | onDisk _, op => op.pairs?
  | remote _, op => op.body?.bind Batch.decode?

/-- The change that a step names. It is what the caller means, and is told
from names and not from addresses. -/
def named (s : Session) : SessionStep → Option StoreChange
  | .removeObject object => some (.removeObject ⟨s.pool, object⟩)
  | .writeObject object data => some (.replaceData ⟨s.pool, object⟩ data)
  | .operate object op => (s.batch? op).map (.writeEntries ⟨s.pool, object⟩)
  | .writeBatch object batch => some (.writeEntries ⟨s.pool, object⟩ batch)
  | .prepare _ | .mapSize _ | .close => none

/-- The changes that a step asks for. A session with a server asks for what
the server makes of its request. -/
def asks (serving : Servers) (d : Disk) : Session → SessionStep → List (Nat × StoreChange)
  | onDisk s, step =>
    match s.handle with
    | some handle => d.asks handle ((onDisk s).named step).toList
    | none => []
  | remote s, step =>
    if s.isOpen then
      match step.request? s.pool with
      | some (route, body) => Network.asks serving d route.method (s.url route.path) body
      | none => []
    else []

end Session

namespace RemoteSession

variable {m : Type → Type} [Monad m] [LawfulMonad m] {access : StoreAccess m} {s : RemoteSession}
  {step : SessionStep}

omit [LawfulMonad m] in
/-- Whoever only wants to know whether a request was a success sends it.
That is how all steps but counting are told. -/
theorem reply_submit (hstep : ∀ object, step ≠ .mapSize object) (method path : String)
    (contentType : Option String) (body : List UInt8) [LawfulMonad m] :
    (do return SessionReply.of (fun _ => .done) (← s.submit access.net method path contentType body)) =
      (do return step.replyTo (← s.send access.net method path contentType body) : m SessionReply) := by
  rw [submit, bind_assoc]
  refine bind_congr fun result => ?_
  rw [pure_bind]
  cases result with
  | error e => cases step <;> rfl
  | ok answer =>
    cases step with
    | mapSize object => exact absurd rfl (hstep object)
    | _ => rfl

/-- A step that needs a request sends it, and that is all. So whatever is
known of sending is known of such steps. -/
theorem answer_of_request? {route : Api.Route} {body : List UInt8}
    (h : step.request? s.pool = some (route, body)) : (Session.remote s).answer access step = do
      return step.replyTo (← s.send access.net route.method route.path route.contentType body) := by
  cases step with
  | removeObject object =>
    cases h
    exact reply_submit (by simp) ..
  | writeObject object data =>
    cases h
    exact reply_submit (by simp) ..
  | operate object op =>
    cases op with
    | pairs batch => cases h
    | body bytes =>
      cases h
      exact reply_submit (by simp) ..
  | writeBatch object batch =>
    cases h
    -- To write a batch is to prepare it first, and a closed session doesn't get beyond that.
    cases hopen : s.isOpen with
    | true =>
      have hprepare : ((Session.remote s).storage access).prepare batch =
          pure (.ok (.body batch.encode)) := by
        simp [Session.storage, StorageSession.widen, storage, hopen, Except.map]
      rw [Session.answer, StorageSession.answer, StorageSession.writeBatch_of_prepare hprepare]
      exact reply_submit (by simp) ..
    | false =>
      have hclosed : (s.storage access.net).IsClosed := isClosed_storage hopen
      rw [send_of_closed hopen, pure_bind]
      exact hclosed.answer_widen .body WriteOp.body? (.writeBatch object batch)
  | mapSize object =>
    cases h
    refine (bind_assoc _ _ _).trans (bind_congr fun result => ?_)
    cases result with
    | error e => exact pure_bind _ _
    | ok answer =>
      simp only [SessionStep.replyTo, countOf]
      cases Count.decode? answer.body <;> exact pure_bind _ _
  | prepare batch => cases h
  | close => cases h

/-- Any other step asks nobody, and writes nothing. If it was to write, it
fails. -/
theorem exists_answer_of_no_request (h : step.request? s.pool = none) :
    ∃ reply, (Session.remote s).answer access step = pure reply ∧ (reply = .done → ¬ step.IsWrite) := by
  cases step with
  | operate object op =>
    cases op with
    | pairs batch =>
      exact ⟨_, Session.answer_operate_of_not_owns rfl object, fun hdone => by cases hdone⟩
    | body bytes => cases h
  | prepare batch =>
    have hprepare : ((Session.remote s).storage access).prepare batch =
        pure ((if s.isOpen then Except.ok batch.encode else .error .closed).map .body) := pure_bind _ _
    have hanswer := congrArg (· >>= fun prepared => pure (SessionReply.of .prepared prepared)) hprepare
    exact ⟨_, hanswer.trans (pure_bind _ _), fun _ => id⟩
  | close => exact ⟨_, rfl, fun _ => id⟩
  | _ => cases h

end RemoteSession

/-- Where all stores are on one disk, and servers answer from them. Sessions
with files and with servers meet there. -/
def Disk.access (serving : Servers) : StoreAccess (StateM Disk) :=
  ⟨fun act => act, Network.ofServers serving⟩

section

variable {serving : Servers} {d : Disk} {A : Nat → Contents} {step : SessionStep}

namespace LocalSession

variable {handle : Nat} {pool : String}

/-- A step of an open session that names a change runs it on its store. A
store file has no addresses, so what is meant is what is done. -/
theorem run_answer_of_named {ch : StoreChange}
    (h : (Session.onDisk ⟨some handle, pool⟩).named step = some ch) :
    ((Session.onDisk ⟨some handle, pool⟩).answer (Disk.access serving) step).run d =
      (.of (fun _ => .done) (((Disk.onStore handle ch.run).run d).1.mapError .store),
        ((Disk.onStore handle ch.run).run d).2) := by
  cases step with
  | operate object op =>
    cases op with
    | pairs batch =>
      cases h
      rfl
    | body bytes => cases h
  | prepare batch => cases h
  | mapSize object => cases h
  | close => cases h
  | _ =>
    cases h
    rfl

/-- A step that names none asks nobody and writes nothing, unless it is to
count. -/
theorem exists_answer_of_not_named (h : (Session.onDisk ⟨some handle, pool⟩).named step = none)
    (hcount : ∀ object, step ≠ .mapSize object) :
    ∃ reply, (Session.onDisk ⟨some handle, pool⟩).answer (Disk.access serving) step = pure reply ∧
      (reply = .done → ¬ step.IsWrite) := by
  cases step with
  | operate object op =>
    cases op with
    | pairs batch => cases h
    | body bytes =>
      exact ⟨_, Session.answer_operate_of_not_owns rfl object, fun hdone => by cases hdone⟩
  | prepare batch => exact ⟨.prepared (.pairs batch), rfl, fun _ => id⟩
  | mapSize object => exact absurd rfl (hcount object)
  | close => exact ⟨_, rfl, fun _ => id⟩
  | _ => cases h

/-- Counting looks at the store, and tells what it finds or why it can't. -/
theorem run_answer_mapSize (object : String) :
    ((Session.onDisk ⟨some handle, pool⟩).answer (Disk.access serving) (.mapSize object)).run d =
      (.of .counted (((Disk.onStore handle (Store.mapSize ⟨pool, object⟩)).run d).1.mapError .store),
        ((Disk.onStore handle (Store.mapSize ⟨pool, object⟩)).run d).2) :=
  rfl

end LocalSession

/-- A step whose request gets to a server is answered from its store. The
reply is judged by its status first. -/
theorem RemoteSession.run_answer_of_target? {s : RemoteSession} {route : Api.Route} {body : List UInt8}
    {handle : Nat} {r : Api.Request} {c : Connection} (hopen : s.isOpen = true)
    (hrequest : step.request? s.pool = some (route, body))
    (htarget : Network.target? serving route.method (s.url route.path) body = some (handle, r))
    (hconn : d.connection? handle = some c) :
    ((Session.remote s).answer (Disk.access serving) step).run d =
      (step.replyTo (judged (s.url route.path) ((Api.handle r).run c).1),
        d.putBack handle ((Api.handle r).run c).2) := by
  have hheard := run_send_of_open hopen (Network.ofServers serving) route.method route.path
    route.contentType body d
  rw [Network.run_send_of_target? htarget hconn] at hheard
  rw [answer_of_request? hrequest, StateT.run_bind]
  simp only [Disk.access, hheard]
  rfl

namespace Session

/-- A session that is closed asks for nothing. -/
theorem asks_of_closed {s : Session} (h : s.isOpen = false) (step : SessionStep) :
    s.asks serving d step = [] := by
  cases s with
  | onDisk s =>
    obtain ⟨handle, pool⟩ := s
    obtain rfl : handle = none := Option.not_isSome_iff_eq_none.mp (Bool.eq_false_iff.mp h)
    rfl
  | remote s => exact if_neg (Bool.eq_false_iff.mp h)

/-- An open session with a file asks for what is named. -/
theorem asks_onDisk (handle : Nat) (pool : String) (step : SessionStep) :
    (onDisk ⟨some handle, pool⟩).asks serving d step =
      d.asks handle ((onDisk ⟨some handle, pool⟩).named step).toList :=
  rfl

/-- An open session with a server asks for what its request comes to there. -/
theorem asks_remote {s : RemoteSession} (hopen : s.isOpen = true) {route : Api.Route}
    {body : List UInt8} (hrequest : step.request? s.pool = some (route, body)) :
    (remote s).asks serving d step = Network.asks serving d route.method (s.url route.path) body := by
  rw [asks, if_pos hopen, hrequest]

/-- What a step with a session can come to, if it asks for these changes.
Both kinds of sessions are covered by it, so what follows is proved once. -/
inductive Took (d : Disk) (step : SessionStep) (asked : List (Nat × StoreChange)) :
    SessionReply × Disk → Prop
  /-- No store was touched, and nothing written. -/
  | idle (reply : SessionReply) (hasked : asked = [])
      (hdone : reply = .done → ¬ step.IsWrite) : Took d step asked (reply, d)
  /-- The store behind a handle was worked on. If something was to be
  written and was, that is one change. -/
  | acted (reply : SessionReply) (handle : Nat) (c c' : Connection) (changes : List StoreChange)
      (hasked : asked = d.asks handle changes) (hconn : d.connection? handle = some c)
      (hop : ∀ C : Contents, c.tables.Holds C → c'.tables.Holds (changes.foldl Contents.after C))
      (hdone : ∀ C : Contents, c.tables.Holds C → reply = .done → step.IsWrite →
        ∃ ch B, changes = [ch] ∧ C.change ch = .ok B) :
      Took d step asked (reply, d.putBack handle c')

/-- A session with a file works on the store behind its handle. There is one
case for each kind of step. -/
theorem took_onDisk (handle : Nat) (pool : String) (step : SessionStep) :
    Took d step ((onDisk ⟨some handle, pool⟩).asks serving d step)
      (((onDisk ⟨some handle, pool⟩).answer (Disk.access serving) step).run d) := by
  rw [asks_onDisk]
  cases hnamed : (onDisk ⟨some handle, pool⟩).named step with
  | some ch =>
    rw [LocalSession.run_answer_of_named hnamed]
    cases hconn : d.connection? handle with
    | none =>
      rw [Disk.run_onStore_of_none hconn]
      exact .idle _ (Disk.asks_of_no_connection hconn _) fun hdone => by cases hdone
    | some c =>
      rw [Disk.run_onStore hconn]
      refine .acted _ handle c _ [ch] rfl hconn (fun C hC => (hC.run_change ch).2)
        fun C hC hdone _ => ?_
      rw [(hC.run_change ch).1] at hdone
      cases hchange : C.change ch with
      | ok B => exact ⟨ch, B, rfl, hchange⟩
      | error e =>
        rw [hchange] at hdone
        cases hdone
  | none =>
    -- A step that names no change counts entries or asks nobody.
    by_cases hcount : ∃ object, step = .mapSize object
    · obtain ⟨object, rfl⟩ := hcount
      rw [LocalSession.run_answer_mapSize]
      cases hconn : d.connection? handle with
      | none =>
        rw [Disk.run_onStore_of_none hconn]
        exact .idle _ (Disk.asks_nil d handle) fun hdone => by cases hdone
      | some c =>
        rw [Disk.run_onStore hconn]
        refine .acted _ handle c _ [] rfl hconn (fun C hC => ?_) fun _ _ _ hwrite => by cases hwrite
        rw [hC.run_mapSize]
        exact hC
    · obtain ⟨reply, hreply, hdone⟩ := LocalSession.exists_answer_of_not_named hnamed fun object heq =>
        hcount ⟨object, heq⟩
      rw [hreply]
      exact .idle reply (Disk.asks_nil d handle) hdone

/-- A session with a server works on the store behind that, if its request
gets there. -/
theorem took_remote {s : RemoteSession} (hopen : s.isOpen = true) (step : SessionStep) :
    Took d step ((remote s).asks serving d step)
      (((remote s).answer (Disk.access serving) step).run d) := by
  cases hrequest : step.request? s.pool with
  | none =>
    obtain ⟨reply, hreply, hdone⟩ : ∃ reply, (remote s).answer (Disk.access serving) step = pure reply ∧
        (reply = .done → ¬ step.IsWrite) := RemoteSession.exists_answer_of_no_request hrequest
    rw [hreply, asks, if_pos hopen, hrequest]
    exact .idle reply rfl hdone
  | some request =>
    obtain ⟨route, body⟩ := request
    rw [asks_remote hopen hrequest]
    obtain ⟨e, hrun, hasks⟩ | ⟨handle, r, c, htarget, hconn, -⟩ :=
      Network.run_send_cases serving d route.method (s.url route.path) route.contentType body
    · have hheard := RemoteSession.run_send_of_open hopen (Network.ofServers serving) route.method
        route.path route.contentType body d
      rw [hrun] at hheard
      rw [RemoteSession.answer_of_request? hrequest, StateT.run_bind]
      simp only [Disk.access, hheard]
      exact .idle (step.replyTo (.error (.request e))) hasks fun hdone => by cases step <;> cases hdone
    · rw [RemoteSession.run_answer_of_target? hopen hrequest htarget hconn, Network.asks, htarget]
      refine .acted (step.replyTo (judged (s.url route.path) ((Api.handle r).run c).1)) handle c _ _ rfl
        hconn (fun C hC => Api.holds_handle hC r) fun C hC hdone hwrite => ?_
      -- A reply that a write is done was an answer with a status of success.
      have hsuccess : isSuccess ((Api.handle r).run c).1.status = true := by
        rw [judged] at hdone
        split at hdone
        · assumption
        · cases step <;> cases hdone
      obtain ⟨action, hasks⟩ := Api.exists_asks_of_isSuccess hsuccess
      have hmethod : r.method ≠ "GET" :=
        Network.method_of_target? htarget ▸ SessionStep.method_of_request? hrequest hwrite
      obtain ⟨ch, hch⟩ := hasks.exists_change hmethod
      obtain ⟨B, hB⟩ := (Api.isSuccess_handle_iff hC hasks hch).mp hsuccess
      exact ⟨ch, B, by rw [Api.Request.change?_of_asks hasks, hch]; rfl, hB⟩

/-- What a step can come to. For all sessions it is one of two things:
nothing at all, or work on one store. -/
theorem took (s : Session) (serving : Servers) (d : Disk) (step : SessionStep) :
    Took d step (s.asks serving d step) ((s.answer (Disk.access serving) step).run d) := by
  cases hopen : s.isOpen with
  | false =>
    rw [asks_of_closed hopen, answer_of_closed (fun _ => rfl) hopen]
    refine .idle _ rfl fun hdone hwrite => ?_
    cases step with
    | prepare batch => cases hwrite
    | mapSize object => cases hwrite
    | close => cases hwrite
    | _ => cases hdone
  | true =>
    cases s with
    | onDisk s =>
      obtain ⟨handle, pool⟩ := s
      obtain ⟨handle, rfl⟩ := Option.isSome_iff_exists.mp hopen
      exact took_onDisk handle pool step
    | remote s => exact took_remote hopen step

/-- After a step the stores hold what they should. It doesn't matter whether
the step was done or failed. -/
theorem shows_answer (h : d.Shows A) (s : Session) (step : SessionStep) :
    ((s.answer (Disk.access serving) step).run d).2.Shows (contentsAfter A (s.asks serving d step)) := by
  have htook := s.took serving d step
  generalize (s.answer (Disk.access serving) step).run d = result at htook ⊢
  cases htook with
  | idle reply hasked _ =>
    rw [hasked]
    exact h
  | acted reply handle c c' changes hasked hconn hop _ =>
    rw [hasked]
    exact h.putBack hconn hop

/-- A step that has written something asked one store for one change, which
succeeded. -/
theorem exists_change_of_done (h : d.Shows A) {s : Session} (hwrite : step.IsWrite)
    (hdone : ((s.answer (Disk.access serving) step).run d).1 = .done) :
    ∃ n ch B, s.asks serving d step = [(n, ch)] ∧ (A n).change ch = .ok B := by
  have htook := s.took serving d step
  generalize (s.answer (Disk.access serving) step).run d = result at htook hdone
  cases htook with
  | idle reply _ hidle => exact absurd hwrite (hidle hdone)
  | acted reply handle c c' changes hasked hconn _ hacted =>
    obtain ⟨n, hreached, -, ht⟩ := Disk.reached?_of_connection? hconn
    obtain ⟨ch, B, rfl, hch⟩ := hacted _ (h.holds n _ ht) hdone hwrite
    exact ⟨n, ch, B, by rw [hasked, Disk.asks, hreached]; rfl, hch⟩

end Session

end

/-! ### A disk with its servers and sessions -/

/-- A disk, the servers that listen at sites, and the sessions that have
been opened, closed or not. -/
structure Deployment where
  disk : Disk
  serving : Servers
  sessions : List Session

/-- What can happen. To drop a session is to close it. Requests from
elsewhere stand for all programs that aren't sessions. -/
inductive DeploymentEvent
  /-- A server opens its store and listens at a site. -/
  | start (site : Site) (config : ServerConfig)
  /-- The server at a site ends. -/
  | stop (site : Site)
  /-- A session is opened. It gets the next number. -/
  | connect (location : StoreLocation) (pool : String)
  /-- Something is done with the session of a number. -/
  | use (number : Nat) (step : SessionStep)
  /-- A server gets a request from elsewhere. -/
  | request (site : Site) (r : Api.Request)

namespace Deployment

/-- What comes of a step with the session of a number. There is nothing if
no session has that number. -/
def reply (D : Deployment) (number : Nat) (step : SessionStep) : Option SessionReply :=
  D.sessions[number]?.map fun s => ((s.answer (Disk.access D.serving) step).run D.disk).1

/-- What there is after an event. What fails changes the disk at most, as a
store that couldn't be opened may have been made. -/
def next (D : Deployment) : DeploymentEvent → Deployment
  | .start site config =>
    match config.openStore.run D.disk with
    | (.error _, disk) => { D with disk }
    | (.ok handle, disk) => { D with disk, serving := D.serving.listen site handle }
  | .stop site => { D with serving := D.serving.leave site }
  | .connect location pool =>
    match (Session.connect (Disk.access D.serving) location pool).run D.disk with
    | (.error _, disk) => { D with disk }
    | (.ok s, disk) => { D with disk, sessions := D.sessions ++ [s] }
  | .use number step =>
    match D.sessions[number]? with
    | none => D
    | some s =>
      { D with
        disk := ((s.answer (Disk.access D.serving) step).run D.disk).2
        sessions := D.sessions.set number (s.after step) }
  | .request site r =>
    match D.serving.handle? site with
    | none => D
    | some handle => { D with disk := ((Disk.answer handle r).run D.disk).2 }

/-- The changes that an event asks for, each of the store of a number. That
a store is opened asks for the pools to be made in it. -/
def asks (D : Deployment) : DeploymentEvent → List (Nat × StoreChange)
  | .start _ config => D.disk.asksOpened config.data (config.pools.map .createPool)
  | .stop _ => []
  | .connect (.onDisk path) pool => D.disk.asksOpened path [.createPool pool]
  | .connect (.remote _) _ => []
  | .use number step =>
    match D.sessions[number]? with
    | none => []
    | some s => s.asks D.serving D.disk step
  | .request site r =>
    match D.serving.handle? site with
    | none => []
    | some handle => D.disk.asks handle r.change?.toList

/-- What there is after events one after another. -/
def run (D : Deployment) (events : List DeploymentEvent) : Deployment :=
  events.foldl next D

/-- All changes that the events ask for, one after another. What an event
asks for may depend on those before it. -/
def history (D : Deployment) : List DeploymentEvent → List (Nat × StoreChange)
  | [] => []
  | event :: events => D.asks event ++ (D.next event).history events

variable {D : Deployment} {A : Nat → Contents}

/-- A session with a server only looks for its pool, so no store is changed
when it is opened. -/
theorem shows_connect_remote {d : Disk} (h : d.Shows A) (serving : Servers)
    (url pool : String) :
    ((RemoteSession.connect (Network.ofServers serving) url pool).run d).2.Shows A := by
  have hsend := h.send serving "GET"
    ((RemoteSession.opened url pool).url (Api.poolPath pool)) none []
  rw [Network.asks_get] at hsend
  rw [RemoteSession.connect, ← RemoteSession.opened, StateT.run_bind]
  rcases hrun : ((Network.ofServers serving).send "GET"
    ((RemoteSession.opened url pool).url (Api.poolPath pool)) none []).run d with ⟨_ | answer, d'⟩
  · rw [hrun] at hsend
    exact hsend
  · rw [hrun] at hsend
    -- Whatever the session makes of the answer, the disk stays as it is.
    show (StateT.run (if answer.status = 200 then pure (.ok (RemoteSession.opened url pool))
      else pure (.error (.poolOpen pool (.answered answer.status))) :
        StateM Disk (Except SessionError RemoteSession)) d').2.Shows A
    split <;> exact hsend

/-- What opening a session does to the disk is done whether it succeeds or
not. -/
theorem disk_next_connect (D : Deployment) (location : StoreLocation) (pool : String) :
    (D.next (.connect location pool)).disk =
      ((Session.connect (Disk.access D.serving) location pool).run D.disk).2 := by
  rw [next]
  rcases (Session.connect (Disk.access D.serving) location pool).run D.disk with ⟨_ | s, disk⟩ <;> rfl

/-- After an event the stores hold what they should. There is one case for
each kind of event. -/
theorem shows_next (h : D.disk.Shows A) (event : DeploymentEvent) :
    (D.next event).disk.Shows (contentsAfter A (D.asks event)) := by
  cases event with
  | start site config =>
    have hstart := h.start config
    rw [next]
    rcases hrun : config.openStore.run D.disk with ⟨_ | handle, disk⟩ <;> rw [hrun] at hstart <;>
      exact hstart
  | stop site => exact h
  | connect location pool =>
    -- Of the session that was opened, only its kind is put on.
    have hmap {α β : Type} (x : StateM Disk α) (f : α → β) :
        ((do return f (← x) : StateM Disk β).run D.disk).2 = (x.run D.disk).2 := rfl
    rw [disk_next_connect]
    cases location with
    | onDisk path =>
      rw [Session.connect, hmap, asks]
      exact h.connect path pool
    | remote url =>
      rw [Session.connect, hmap, asks]
      exact shows_connect_remote h D.serving url pool
  | use number step =>
    rw [next, asks]
    cases D.sessions[number]? with
    | none => exact h
    | some s => exact Session.shows_answer h s step
  | request site r =>
    rw [next, asks]
    cases D.serving.handle? site with
    | none => exact h
    | some handle => exact h.answer handle r

/-- So they do after any number of events. The induction is on the events,
with `shows_next` as its step. -/
theorem shows_run (h : D.disk.Shows A) (events : List DeploymentEvent) :
    (D.run events).disk.Shows (contentsAfter A (D.history events)) := by
  induction events generalizing D A with
  | nil => exact h
  | cons event events ih =>
    rw [history, contentsAfter_append]
    exact ih (shows_next h event)

end Deployment

end MapBench
