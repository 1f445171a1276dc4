import MapBench.Proofs.Session.Deployment
import MapBench.Proofs.Store.Lasting

/-!
# `MapBench.Proofs.Session.Durable`: what sessions write stays written

A session may be closed at any time, and what it wrote until then is still
there for everyone who works on the same store later. It stays until a
change overwrites or removes it, by whatever way that comes.

* `StoreAccess.ClosesForGood`: writes of the other kind are refused, and who
  is closed asks nobody.
* `Session.Names`: the names that a session doesn't take for others.
  `Session.asks_of_names`: what it asks for is what was named.
* `Deployment.KeepsWrites`: what can be said of the writes of sessions.
* `Deployment.closesForGood_keepsWrites`: it can be said at any time.
-/

set_option autoImplicit false

namespace MapBench

open Std Url RemoteSession

/-! ### Until a session is closed, and after -/

/-- Where stores are reached in this way, a session refuses writes of the
other kind, and from the first close on it asks nobody. -/
structure StoreAccess.ClosesForGood {m : Type → Type} [Monad m] (access : StoreAccess m) : Prop where
  refused : ∀ (s : Session) (object : String) (op : WriteOp), s.owns op = false →
    s.answer access (.operate object op) = pure (.failed .foreignWriteOp)
  closed : ∀ (s : Session) (before rest : List SessionStep),
    s.answers access (before ++ .close :: rest) = do
      let replies ← s.answers access before
      return replies ++ .done :: rest.map (.whenClosed s.owns)

/-- So it is in a world with a disk and any network. -/
theorem World.closesForGood {ω : Type} (net : Network (StateM ω)) :
    (World.access net).ClosesForGood where
  refused _ object _ h := Session.answer_operate_of_not_owns h object
  closed _ before rest := Session.answers_append_close (fun _ => rfl) before rest

/-- And on a disk with servers, since sessions are closed in the same way
there. -/
theorem Disk.closesForGood (serving : Servers) : (Disk.access serving).ClosesForGood where
  refused _ object _ h := Session.answer_operate_of_not_owns h object
  closed _ before rest := Session.answers_append_close (fun _ => rfl) before rest

/-! ### What was named -/

/-- The session doesn't take the name for another one: it has a file, or the
address of a server and plain names. -/
def Session.Names (readHost : HostReader) : Session → String → Prop
  | .onDisk _, _ => True
  | .remote s, object => (∃ base, IsServerUrl readHost base ∧ s.baseUrl = trimSlashes base) ∧
      Api.IsPlainName s.pool ∧ Api.IsPlainName object

/-- The number of the store that a session works on: behind its handle, or
behind the server at its address. -/
def Deployment.storeOf? (D : Deployment) : Session → Option Nat
  | .onDisk s => s.handle.bind D.disk.reached?
  | .remote s => do
    let u ← (Url.parse D.serving.readHost s.baseUrl).toOption
    let handle ← D.serving.handle? u.site
    D.disk.reached? handle

/-- The tables that a session works on. For a session with a server these
are the ones of the store that the server has open. -/
def Deployment.tables? (D : Deployment) (s : Session) : Option Tables := do
  let n ← D.storeOf? s
  D.disk.stores[n]?

section

variable {D : Deployment} {s : RemoteSession} {step : SessionStep} {route : Api.Route}
  {body : List UInt8}

/-- The names in the request for a step are plain if those that were given
are. -/
theorem SessionStep.plain_of_request? (h : step.request? s.pool = some (route, body))
    (hpool : Api.IsPlainName s.pool) (hnames : ∀ object ∈ step.object?, Api.IsPlainName object) :
    ∀ name ∈ route.pieces, Api.IsPlainName name := by
  have hobject (object : String) (hgiven : step.object? = some object) : Api.IsPlainName object :=
    hnames object hgiven
  cases step with
  | operate object op =>
    cases op <;> cases h
    exact Api.plainNames (by simp [Api.Route.pieces, Api.fixedNames, hpool, hobject object rfl])
  | prepare batch => cases h
  | close => cases h
  | removeObject object | writeObject object _ | writeBatch object _ | mapSize object =>
    cases h
    exact Api.plainNames (by simp [Api.Route.pieces, Api.fixedNames, hpool, hobject object rfl])

/-- The request for a step asks for the change that the step names, if it
gets the route that it was built for. -/
theorem SessionStep.change?_of_request? (h : step.request? s.pool = some (route, body)) {r : Api.Request}
    (hmatches : r.Matches route) (hbody : r.body = body) :
    r.change? = (Session.remote s).named step := by
  rw [Api.Request.change?_of_matches hmatches, hbody]
  cases step with
  | operate object op =>
    cases op <;> cases h
    simp only [Api.Route.action, Session.named, Session.batch?, WriteOp.body?, Option.bind_some]
    cases Batch.decode? body <;> rfl
  | writeBatch object batch =>
    cases h
    simp only [Api.Route.action, Batch.decode?_encode]
    rfl
  | prepare batch => cases h
  | close => cases h
  | _ =>
    cases h
    rfl

/-- Only a step that has a request names a change. -/
theorem Session.named_of_no_request (h : step.request? s.pool = none) :
    (Session.remote s).named step = none := by
  cases step with
  | operate object op =>
    cases op <;> cases h
    rfl
  | prepare batch => rfl
  | close => rfl
  | _ => cases h

/-- Behind the address of a server, the request for plain names gets to
whoever listens there, with the route that it should have. -/
theorem RemoteSession.target?_of_plain {serving : Servers} {base : String}
    (hbase : IsServerUrl serving.readHost base) (hurl : s.baseUrl = trimSlashes base)
    (hplain : ∀ name ∈ route.pieces, Api.IsPlainName name) (body : List UInt8) :
    ∃ u r, Url.parse serving.readHost s.baseUrl = .ok u ∧ r.Matches route ∧ r.body = body ∧
      Network.target? serving route.method (s.url route.path) body =
        (serving.handle? u.site).map (·, r) := by
  obtain ⟨site, ⟨u, hparse, hsite⟩, hbehind⟩ := hbase.exists_site
  obtain ⟨v, hparse', hsite', hpieces⟩ := hbehind route.path _ route.toList_path
  have hne : route.pieces ≠ [] := by cases route <;> exact List.cons_ne_nil _ _
  rw [Api.seen?_joined_plain hne hplain] at hpieces
  refine ⟨u, ⟨route.method, v.target, body⟩, hurl ▸ hparse, ⟨rfl, hpieces⟩, rfl, ?_⟩
  rw [Network.target?, RemoteSession.url, hurl, hparse', Except.toOption, Option.bind_eq_bind,
    Option.bind_some, hsite', hsite]
  cases serving.handle? site <;> rfl

end

/-- What a session asks for is what was named, if it doesn't take the names
for others. -/
theorem Session.asks_of_names {D : Deployment} {s : Session} {step : SessionStep}
    (hopen : s.isOpen = true) (hnames : ∀ object ∈ step.object?, s.Names D.serving.readHost object) :
    s.asks D.serving D.disk step = match D.storeOf? s with
      | some n => (s.named step).toList.map (n, ·)
      | none => [] := by
  cases s with
  | onDisk s =>
    obtain ⟨handle, pool⟩ := s
    obtain ⟨handle, rfl⟩ := Option.isSome_iff_exists.mp hopen
    rfl
  | remote s =>
    have hisOpen : s.isOpen = true := hopen
    cases hrequest : step.request? s.pool with
    | none =>
      rw [Session.asks, if_pos hisOpen, hrequest, named_of_no_request hrequest]
      cases D.storeOf? (remote s) <;> rfl
    | some request =>
      obtain ⟨route, body⟩ := request
      obtain ⟨object, hobject⟩ : ∃ object, step.object? = some object := by
        cases step <;> first | exact ⟨_, rfl⟩ | cases hrequest
      obtain ⟨⟨base, hbase, hurl⟩, hpool, -⟩ := hnames object hobject
      -- Names that stay as they are lead to the route that they were meant for.
      have hplain := SessionStep.plain_of_request? hrequest hpool fun other hother =>
        (hnames other hother).2.2
      obtain ⟨u, r, hparse, hmatches, hbody, htarget⟩ :=
        RemoteSession.target?_of_plain hbase hurl hplain body
      rw [asks_remote hisOpen hrequest, Network.asks, htarget,
        ← SessionStep.change?_of_request? hrequest hmatches hbody, Deployment.storeOf?, hparse]
      simp only [Except.toOption, Option.bind_eq_bind, Option.bind_some]
      cases D.serving.handle? u.site <;> rfl

/-- A session with a file counts the entries of the store behind its handle.
The number is cut to a word, as it is on the wire. -/
theorem LocalSession.reply_mapSize {serving : Servers} {d : Disk} {handle : Nat}
    {pool object : String} {c : Connection} {C : Contents} (hconn : d.connection? handle = some c)
    (h : c.tables.Holds C) :
    (((Session.onDisk ⟨some handle, pool⟩).answer (Disk.access serving) (.mapSize object)).run d).1 =
      .counted (C.mapSize ⟨pool, object⟩ % UInt64.size) := by
  rw [run_answer_mapSize, Disk.run_onStore hconn, h.run_mapSize]
  rfl

/-- A session with a server counts those of the store that the server works
on, if its request gets there. -/
theorem RemoteSession.reply_mapSize {serving : Servers} {d : Disk} {s : RemoteSession}
    {handle : Nat} {r : Api.Request} {object : String} {c : Connection} {C : Contents}
    (hopen : s.isOpen = true)
    (htarget : Network.target? serving "GET" (s.url (Api.countPath s.pool object)) [] = some (handle, r))
    (hasks : r.Asks (.countEntries ⟨s.pool, object⟩)) (hconn : d.connection? handle = some c)
    (h : c.tables.Holds C) (hpool : s.pool ∈ C) :
    (((Session.remote s).answer (Disk.access serving) (.mapSize object)).run d).1 =
      .counted (C.mapSize ⟨s.pool, object⟩ % UInt64.size) := by
  have hrequest : SessionStep.request? s.pool (.mapSize object) =
      some (.countEntries ⟨s.pool, object⟩, []) := rfl
  have hlt : C.mapSize ⟨s.pool, object⟩ % UInt64.size < UInt64.size := Nat.mod_lt _ (by decide)
  have hjudged : judged (s.url (Api.Route.countEntries ⟨s.pool, object⟩).path)
      (Api.Outcome.counted (C.mapSize ⟨s.pool, object⟩ % UInt64.size)).answer = .ok _ := if_pos rfl
  rw [run_answer_of_target? hopen hrequest htarget hconn, Api.run_handle_countEntries h hasks hpool,
    hjudged, SessionStep.replyTo, countOf_counted hlt]
  rfl

/-- A session counts the entries of the tables that it works on. So what one
session wrote is counted by every other. -/
theorem Session.reply_mapSize {D : Deployment} {A : Nat → Contents} (h : D.disk.Shows A) {s : Session}
    {object : String} {t : Tables} (hopen : s.isOpen = true) (hnames : s.Names D.serving.readHost object)
    (ht : D.tables? s = some t) (hpool : t.HasPool s.pool) :
    ∃ rows, t.mapOf ⟨s.pool, object⟩ = some rows ∧
      ((s.answer (Disk.access D.serving) (.mapSize object)).run D.disk).1 =
        .counted (rows.size % UInt64.size) := by
  obtain ⟨n, hn, hstore⟩ := Option.bind_eq_some_iff.mp ht
  have hholds := h.holds n t hstore
  obtain ⟨rows, hrows, hsize⟩ := hholds.size_mapOf ⟨s.pool, object⟩
  refine ⟨rows, hrows, ?_⟩
  rw [hsize]
  -- Both kinds of sessions get to the same tables, one by its handle and one through a
  -- server.
  cases s with
  | onDisk s =>
    obtain ⟨handle, pool⟩ := s
    obtain ⟨handle, rfl⟩ := Option.isSome_iff_exists.mp hopen
    obtain ⟨c, hconn, -, htables⟩ := Disk.reached?_eq_some_iff.mp hn
    obtain rfl : t = c.tables := Option.some.inj (hstore.symm.trans htables)
    exact LocalSession.reply_mapSize hconn hholds
  | remote s =>
    obtain ⟨⟨base, hbase, hurl⟩, hplainPool, hplainObject⟩ := hnames
    have hrequest : SessionStep.request? s.pool (.mapSize object) =
        some (.countEntries ⟨s.pool, object⟩, []) := rfl
    have hplain := SessionStep.plain_of_request? hrequest hplainPool
      (by simp [SessionStep.object?, hplainObject])
    obtain ⟨u, r, hparse, hmatches, hbody, htarget⟩ :=
      RemoteSession.target?_of_plain hbase hurl hplain []
    simp only [Deployment.storeOf?, hparse, Except.toOption, Option.bind_eq_bind, Option.bind_some,
      Option.bind_eq_some_iff] at hn
    obtain ⟨handle, hsite, hreached⟩ := hn
    obtain ⟨c, hconn, -, htables⟩ := Disk.reached?_eq_some_iff.mp hreached
    obtain rfl : t = c.tables := Option.some.inj (hstore.symm.trans htables)
    rw [hsite, Option.map_some] at htarget
    exact RemoteSession.reply_mapSize hopen htarget ⟨_, hmatches, rfl⟩ hconn hholds
      ((hholds.hasPool_iff s.pool).mp hpool)

/-! ### What was written -/

/-- What contents bear is in a store of the disk: they have the pool of it,
so there is that store. -/
theorem Disk.Shows.exists_isIn {d : Disk} {A : Nat → Contents} (h : d.Shows A) {n : Nat} {mark : Mark}
    (hbears : (A n).Bears mark) (hpool : mark.target.pool ∈ A n) :
    ∃ t, d.stores[n]? = some t ∧ mark.IsIn t := by
  cases hstore : d.stores[n]? with
  | none =>
    rw [h.empty n (Array.getElem?_eq_none_iff.mp hstore)] at hpool
    exact absurd hpool ExtTreeMap.not_mem_empty
  | some t => exact ⟨t, rfl, ((h.holds n t hstore).isIn_iff mark).mpr hbears⟩

namespace Deployment

/-- What can be said of the writes of sessions, where the stores hold these
contents. -/
structure KeepsWrites (D : Deployment) (A : Nat → Contents) : Prop where
  /-- A session that doesn't take the names for others asks the store that
  it works on for the change that was named. -/
  named : ∀ (number : Nat) (s : Session) (step : SessionStep), D.sessions[number]? = some s →
    s.isOpen = true → (∀ object ∈ step.object?, s.Names D.serving.readHost object) →
    D.asks (.use number step) = match D.storeOf? s with
      | some n => (s.named step).toList.map (n, ·)
      | none => []
  /-- A write that was done is one change of one store. -/
  reached : ∀ (number : Nat) (step : SessionStep), step.IsWrite → D.reply number step = some .done →
    ∃ n ch, D.asks (.use number step) = [(n, ch)]
  /-- Whatever happens after it, what it wrote is there until a change that
  the store makes overwrites it, for everyone who works on that store. A
  change that is asked for and refused overwrites nothing. -/
  kept : ∀ (number : Nat) (step : SessionStep) (n : Nat) (ch : StoreChange) (mark : Mark)
    (events : List DeploymentEvent), step.IsWrite → D.reply number step = some .done →
    D.asks (.use number step) = [(n, ch)] → ch.Writes mark →
    let D' := D.next (.use number step)
    (∀ later ∈ ((A n).after ch).made (changesOf (D'.history events) n), ¬ later.Overwrites mark) →
    ∃ t, (D'.run events).disk.stores[n]? = some t ∧ mark.IsIn t ∧
      ∀ s ∈ (D'.run events).sessions, (D'.run events).storeOf? s = some n →
        (D'.run events).tables? s = some t
  /-- An open session tells the size of a map as the tables have it. -/
  counted : ∀ (number : Nat) (s : Session) (object : String) (t : Tables),
    D.sessions[number]? = some s → s.isOpen = true → s.Names D.serving.readHost object →
    D.tables? s = some t → t.HasPool s.pool → ∃ rows, t.mapOf ⟨s.pool, object⟩ = some rows ∧
      D.reply number (.mapSize object) = some (.counted (rows.size % UInt64.size))

variable {D : Deployment} {A : Nat → Contents}

/-- So it is wherever the stores hold what they should. Writes and later
changes are found in the same history. -/
theorem keepsWrites (h : D.disk.Shows A) : D.KeepsWrites A where
  named number s step hs hopen hnames := by
    rw [asks, hs]
    exact Session.asks_of_names hopen hnames
  reached number step hwrite hdone := by
    obtain ⟨s, hs, hreply⟩ := Option.map_eq_some_iff.mp hdone
    obtain ⟨n, ch, B, hasks, -⟩ := Session.exists_change_of_done h hwrite hreply
    exact ⟨n, ch, by simpa only [asks, hs] using hasks⟩
  kept number step n ch mark events hwrite hdone hasks hwrites := by
    intro D' hlater
    obtain ⟨s, hs, hreply⟩ := Option.map_eq_some_iff.mp hdone
    obtain ⟨k, other, B, hother, hchange⟩ := Session.exists_change_of_done h hwrite hreply
    have hsame : D.asks (.use number step) = [(k, other)] := by simpa only [asks, hs] using hother
    obtain ⟨rfl, rfl⟩ : n = k ∧ ch = other := by simpa using hasks.symm.trans hsame
    -- The mark of the write is there right after it, and no later change overwrites it.
    have hnow := shows_next h (.use number step)
    rw [hasks] at hnow
    have hwritten : contentsAfter A [(n, ch)] n = (A n).after ch := by simp [contentsAfter, changesOf]
    have hbears : (contentsAfter A [(n, ch)] n).Bears mark :=
      hwritten ▸ Contents.bears_after_of_writes hchange hwrites
    have hend := shows_run hnow events
    have hkept : (contentsAfter (contentsAfter A [(n, ch)]) (D'.history events) n).Bears mark :=
      hbears.foldl_after (hwritten ▸ hlater)
    have hpool : mark.target.pool ∈
        contentsAfter (contentsAfter A [(n, ch)]) (D'.history events) n := by
      refine Contents.mem_foldl_after (hwritten ▸ ?_) _
      exact Contents.mem_after.mpr (.inl (Contents.pool_mem_of_writes hchange hwrites))
    obtain ⟨t, hstore, hisIn⟩ := hend.exists_isIn hkept hpool
    refine ⟨t, hstore, hisIn, fun s' _ hs' => ?_⟩
    rw [tables?, hs', Option.bind_eq_bind, Option.bind_some, hstore]
  counted number s object t hs hopen hnames ht hpool := by
    obtain ⟨rows, hrows, hreply⟩ := Session.reply_mapSize h hopen hnames ht hpool
    exact ⟨rows, hrows, by rw [reply, hs, Option.map_some, hreply]⟩

/-- On every network a session closes for good. Where sessions and servers
work on the stores of one disk, this is so at any time, the stores hold what
the changes made of them, and what was written can be said to be kept.

What was written is what was named only for sessions that don't take names
for others: see `Session.Names`. -/
theorem closesForGood_keepsWrites (h : D.disk.Shows A) :
    (∀ {ω : Type} (net : Network (StateM ω)), (World.access net).ClosesForGood) ∧
      ∀ events : List DeploymentEvent, (Disk.access (D.run events).serving).ClosesForGood ∧
        (D.run events).disk.Shows (contentsAfter A (D.history events)) ∧
        (D.run events).KeepsWrites (contentsAfter A (D.history events)) :=
  ⟨World.closesForGood, fun events =>
    ⟨Disk.closesForGood _, shows_run h events, keepsWrites (shows_run h events)⟩⟩

/-- A session with the server writes an entry and is closed. The session with
the file has the entry in its tables. But a removal of `hw?x` is one of `hw`. -/
theorem closesForGood_keepsWrites_hw :
    let tables : Tables := ⟨some ((∅ : ExtTreeSet String).insert "ben"), some ∅, some ∅⟩
    let disk : Disk := ⟨(FileTree.mk ∅ []).put ["server.db"] (.store 0), #[tables],
      #[⟨0, false⟩, ⟨0, false⟩]⟩
    let reader : Session := .onDisk ⟨some 1, "ben"⟩
    let D : Deployment :=
      ⟨disk, ⟨asciiHost, fun site => if site = ⟨"http", "localhost", some 3000⟩ then some 0 else none⟩,
        [.remote (.opened "http://localhost:3000" "ben"), reader]⟩
    let A : Nat → Contents := fun n => if n = 0 then (∅ : Contents).insertIfNew "ben" ∅ else ∅
    let write : SessionStep := .writeBatch "hw" ⟨[⟨"a", [1]⟩]⟩
    let D' := D.next (.use 0 write)
    let closed := D'.run [.use 0 .close]
    D.disk.Shows A ∧ D.reply 0 write = some .done ∧
      D.asks (.use 0 (.removeObject "hw?x")) = [(0, .removeObject ⟨"ben", "hw"⟩)] ∧
      ∃ t, closed.tables? reader = some t ∧ t.valueOf ⟨"ben", "hw"⟩ "a" = some [1] := by
  intro tables disk reader D A write D' closed
  have hshows : D.disk.Shows A := by
    constructor
    · intro n t ht
      cases n with
      | zero =>
        obtain rfl : tables = t := Option.some.inj ht
        exact ⟨_, _, _, rfl, Represents.empty.insertPool "ben"⟩
      | succ n => cases ht
    · intro n hn
      exact if_neg (Nat.ne_of_gt hn)
  have hdone : D.reply 0 write = some .done := by decide +kernel
  have hasks : D.asks (.use 0 write) =
      [(0, .writeEntries ⟨"ben", "hw"⟩ ⟨[⟨"a", [1]⟩]⟩)] := by decide +kernel
  have hwrites : StoreChange.Writes (.writeEntries ⟨"ben", "hw"⟩ ⟨[⟨"a", [1]⟩]⟩)
      (.entry ⟨"ben", "hw"⟩ "a" [1]) := .entry _ (by decide)
  have hnone : D'.history [.use 0 .close] = [] := by decide +kernel
  have hlater : ∀ later ∈ ((A 0).after (.writeEntries ⟨"ben", "hw"⟩ ⟨[⟨"a", [1]⟩]⟩)).made
      (changesOf (D'.history [.use 0 .close]) 0),
      ¬ later.Overwrites (.entry ⟨"ben", "hw"⟩ "a" [1]) := by
    rw [hnone]
    exact List.forall_mem_nil _
  have hreader : reader ∈ closed.sessions := .tail _ (.head _)
  have hkeeps : D.KeepsWrites A := ((closesForGood_keepsWrites hshows).2 []).2.2
  obtain ⟨t, -, hentry, hseen⟩ :=
    hkeeps.kept 0 write 0 _ _ [.use 0 .close] trivial hdone hasks hwrites hlater
  have hremoves : D.asks (.use 0 (.removeObject "hw?x")) = [(0, .removeObject ⟨"ben", "hw"⟩)] := by
    decide +kernel
  exact ⟨hshows, hdone, hremoves, t, hseen reader hreader (by decide +kernel), hentry⟩

end Deployment

end MapBench
