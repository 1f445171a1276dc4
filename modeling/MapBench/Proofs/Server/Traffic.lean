import MapBench.Proofs.Api.Answers
import Mathlib.Logic.Function.Basic
import Mathlib.Logic.Relation

/-!
# `MapBench.Proofs.Server.Traffic`: many requests at a time

A server lets many requests in at a time. Each is read without the store;
if it asks for something, its handler waits for the lock of the store,
makes its one or two calls, and gives the lock back with the answer. All
of this takes place in any order, and while a call runs, the tables may
look like anything.

* `Work`: the calls of a handler. `Action.run_work`: together they are the
  action.
* `Traffic.Step`: what may happen next.
* `Traffic.IsSerial`: answers and store are those of requests one at a time,
  in the order in which they took the lock. `IsSerial.step` keeps it.
* `Traffic.linearizable`: so they are after every run, and what follows for
  counts and for batches.
-/

set_option autoImplicit false

namespace MapBench

open Api Relation

/-! ### Handlers -/

/-- What a handler that has the lock has left to do: it calls the store and
goes on with the result, or it knows the outcome. -/
inductive Work : Type 1
  | done (o : Outcome)
  | call {α : Type} (op : StoreM α) (next : Except StoreError α → Work)

/-- The work as a whole. Nothing comes between its calls here, which is what
the lock is for. -/
def Work.run : Work → StateM Connection Outcome
  | .done o => pure o
  | .call op next => do (next (← op.run)).run

/-- The handler of an action that needs a pool first. If that isn't there,
the second call isn't made. -/
def Work.behindPool (pool : String) (work : Work) : Work :=
  .call (Store.hasPool pool) fun
    | .ok true => work
    | .ok false => .done .noPool
    | .error e => .done (.ofError e)

/-- A handler with one call. Whether there is a pool is looked at within it. -/
def Work.single {α : Type} (op : StoreM α) (good : α → Outcome) : Work :=
  .call op fun result => .done (.ofResult good result)

/-- The handler of an action. Two of them make a call of their own to look
for the pool. -/
def Api.Action.work : Action → Work
  | .findPool pool => .behindPool pool (.done .done)
  | .writeObject id data => .single (Store.replaceData id data) fun _ => .done
  | .removeObject id => .single (Store.removeObject id) fun _ => .done
  | .writeEntries id batch => .single (Store.writeEntries id batch) fun _ => .done
  | .countEntries id => .behindPool id.pool (.single (Store.mapSize id) .counted)

namespace Work

/-- The first call is made first, and the work goes on with what it returns. -/
theorem run_call {α : Type} (op : StoreM α) (next : Except StoreError α → Work) (c : Connection) :
    (Work.call op next).run.run c = (next (op.run c).1).run.run (op.run c).2 :=
  rfl

/-- The work with one call is that call, and tells what comes of it. -/
theorem run_single {α : Type} (op : StoreM α) (good : α → Outcome) (c : Connection) :
    (single op good).run.run c = (Outcome.ofStore op good).run c := by
  rw [Outcome.run_ofStore, single, run_call]
  rfl

/-- To look for the pool is to need it. Whether that is done in a call of
its own or in the same one makes no difference under the lock. -/
theorem run_behindPool {α : Type} (pool : String) {work : Work} {op : StoreM α} {good : α → Outcome}
    (hwork : ∀ c, work.run.run c = (Outcome.ofStore op good).run c) (c : Connection) :
    (behindPool pool work).run.run c =
      (Outcome.ofStore (do Store.needPool pool; op) good).run c := by
  rw [Outcome.run_ofStore, Store.run_bind, Store.run_needPool, behindPool, run_call, Store.run_hasPool]
  cases c.tables.pools with
  | none => rfl
  | some ps =>
    by_cases hmem : pool ∈ ps
    · have hhas : ps.contains pool = true := Std.ExtTreeSet.mem_iff_contains.mp hmem
      simp only [hhas, if_pos hmem, hwork, Outcome.run_ofStore]
    · have hhas : ps.contains pool = false := by
        rw [← Bool.not_eq_true]
        exact fun hhas => hmem (Std.ExtTreeSet.mem_iff_contains.mpr hhas)
      simp only [hhas, if_neg hmem]
      rfl

end Work

/-- The calls of a handler, one after another, are the action. So the lock
makes several calls one. -/
theorem Api.Action.run_work (action : Action) (c : Connection) :
    action.work.run.run c = action.run.run c := by
  cases action with
  | findPool pool =>
    have hdone (c : Connection) : (Work.done .done).run.run c =
        (Outcome.ofStore (pure ()) fun _ => .done).run c := rfl
    have hrun := Work.run_behindPool pool hdone c
    rwa [bind_pure_unit] at hrun
  | countEntries id =>
    exact Work.run_behindPool id.pool (Work.run_single (Store.mapSize id) .counted) c
  | _ => exact Work.run_single _ _ c

/-! ### Traffic -/

/-- How far a request has come. It goes through these in order, but some
requests are answered without waiting. -/
inductive Stage
  /-- It is on its way to the server. -/
  | sent
  /-- It has been read, and its handler waits for the lock. -/
  | waiting (action : Action)
  /-- Its handler has the lock. -/
  | serving
  /-- The answer is on its way to the client. -/
  | answered (a : Answer)
  /-- The client has the answer. -/
  | received (a : Answer)

/-- The answer, once there is one. It stays the same after it has arrived. -/
def Stage.answer? : Stage → Option Answer
  | .answered a | .received a => some a
  | _ => none

/-- A request of a client, and how far it has come. A client may have
several on their way. -/
structure Exchange where
  client : Nat
  request : Request
  stage : Stage

/-- The lock of the store. Whoever has it is between two calls, or in one
that began on some store. -/
inductive Lock : Type 1
  | free
  | held (i : Nat) (work : Work)
  | inCall (i : Nat) (began : Connection) {α : Type} (op : StoreM α)
      (next : Except StoreError α → Work)

/-- A server with its store, and all requests that were ever sent to it,
each under a number of its own. -/
structure Traffic : Type 1 where
  store : Connection
  lock : Lock
  exchange? : Nat → Option Exchange
  /-- The requests that took the lock, in that order. -/
  served : List (Nat × Request)

namespace Traffic

/-- A server that no request was sent to yet. Its lock is free. -/
def start (store : Connection) : Traffic :=
  ⟨store, .free, fun _ => none, []⟩

/-- A request comes to a stage. All other requests stay where they are. -/
def put (s : Traffic) (i : Nat) (e : Exchange) : Traffic :=
  { s with exchange? := Function.update s.exchange? i (some e) }

/-- The handler of a request takes the lock. From here on the place of the
request in the order is fixed. -/
def take (s : Traffic) (i n : Nat) (r : Request) (action : Action) : Traffic :=
  { s.put i ⟨n, r, .serving⟩ with
    lock := .held i action.work, served := s.served ++ [(i, r)] }

/-- The handler of a request gives the lock back. At that moment its answer
is made. -/
def giveBack (s : Traffic) (i n : Nat) (r : Request) (o : Outcome) : Traffic :=
  { s.put i ⟨n, r, .answered o.answer⟩ with lock := .free }

/-- What may happen next. Clients, handlers and calls go on independently of
one another, so more than one step may be possible. -/
inductive Step : Traffic → Traffic → Prop
  /-- A client sends a request. -/
  | send {s : Traffic} {i : Nat} (n : Nat) (r : Request) (new : s.exchange? i = none) :
      Step s (s.put i ⟨n, r, .sent⟩)
  /-- The request asks for nothing, and is answered without the store. -/
  | refuse {s : Traffic} {i n : Nat} {r : Request} {why : Refusal}
      (sent : s.exchange? i = some ⟨n, r, .sent⟩) (refused : r.action = .error why) :
      Step s (s.put i ⟨n, r, .answered (Outcome.refused why).answer⟩)
  /-- The request is read, with its body. -/
  | read {s : Traffic} {i n : Nat} {r : Request} {action : Action}
      (sent : s.exchange? i = some ⟨n, r, .sent⟩) (asks : r.action = .ok action) :
      Step s (s.put i ⟨n, r, .waiting action⟩)
  /-- A handler that waits gets the lock. -/
  | acquire {s : Traffic} {i n : Nat} {r : Request} {action : Action}
      (waiting : s.exchange? i = some ⟨n, r, .waiting action⟩) (free : s.lock = .free) :
      Step s (s.take i n r action)
  /-- A call begins. -/
  | enter {s : Traffic} {i : Nat} {α : Type} {op : StoreM α} {next : Except StoreError α → Work}
      (held : s.lock = .held i (.call op next)) :
      Step s { s with lock := .inCall i s.store op next }
  /-- Until it ends, the tables may look like anything. -/
  | disturb {s : Traffic} {i : Nat} {began : Connection} {α : Type} {op : StoreM α}
      {next : Except StoreError α → Work} (inCall : s.lock = .inCall i began op next)
      (anything : Connection) : Step s { s with store := anything }
  /-- The call ends. -/
  | leave {s : Traffic} {i : Nat} {began : Connection} {α : Type} {op : StoreM α}
      {next : Except StoreError α → Work} (inCall : s.lock = .inCall i began op next) :
      Step s { s with
        store := (op.run began).2, lock := .held i (next (op.run began).1) }
  /-- The handler has its answer, and gives the lock back. -/
  | release {s : Traffic} {i n : Nat} {r : Request} {o : Outcome}
      (serving : s.exchange? i = some ⟨n, r, .serving⟩) (held : s.lock = .held i (.done o)) :
      Step s (s.giveBack i n r o)
  /-- The client gets its answer. -/
  | receive {s : Traffic} {i n : Nat} {r : Request} {a : Answer}
      (answered : s.exchange? i = some ⟨n, r, .answered a⟩) :
      Step s (s.put i ⟨n, r, .received a⟩)

/-- The requests in the order in which they took the lock. Those that were
refused aren't among them. -/
def requests (s : Traffic) : List Request :=
  s.served.map Prod.snd

/-- Who has the lock, with the rest of the work and the store that it goes
on from. -/
def rest? (s : Traffic) : Option (Nat × Work × Connection) :=
  match s.lock with
  | .free => none
  | .held i work => some (i, work, s.store)
  | .inCall i began op next => some (i, .call op next, began)

/-- Who has the lock. There is one at most. -/
def owner? (s : Traffic) : Option Nat :=
  s.rest?.map Prod.fst

/-- The store, once the one who has the lock is done. While a call runs,
that isn't the store as it looks but what will be left of it. -/
def settled (s : Traffic) : Connection :=
  match s.rest? with
  | none => s.store
  | some (_, work, c) => (work.run.run c).2

/-- The answer that the one who has the lock will get. It is fixed when the
lock is taken. -/
def owed? (s : Traffic) : Option Answer :=
  s.rest?.map fun (_, work, c) => (work.run.run c).1.answer

/-- The answer that a request has got or, if it has the lock, will get. So a
request has one as soon as it has a place in the order. -/
def answer? (s : Traffic) (i : Nat) : Option Answer :=
  match (s.exchange? i).map Exchange.stage with
  | some .serving => s.owed?
  | some stage => stage.answer?
  | none => none

/-! ### A handler on its way -/

/-- Whoever has the lock can finish the work. The induction is on the calls
that are left. -/
theorem reach_done {s : Traffic} {i : Nat} {work : Work} (hheld : s.lock = .held i work) :
    ReflTransGen Step s { s with
      store := (work.run.run s.store).2, lock := .held i (.done (work.run.run s.store).1) } := by
  induction work generalizing s with
  | done o =>
    obtain ⟨store, lock, exchange?, served⟩ := s
    obtain rfl : lock = .held i (.done o) := hheld
    exact .refl
  | call op next ih =>
    have hleave := ReflTransGen.single (Step.enter hheld) |>.tail (.leave rfl)
    exact hleave.trans (ih _ rfl)

/-- The handler of a request takes the lock, does its work and gives the lock
back. -/
def serve (s : Traffic) (i n : Nat) (r : Request) (action : Action) : Traffic :=
  { s.put i ⟨n, r, .answered (action.work.run.run s.store).1.answer⟩ with
    store := (action.work.run.run s.store).2, served := s.served ++ [(i, r)] }

/-- While nobody has the lock, any handler that waits may be served. So runs
can be put together of whole requests. -/
theorem reach_serve {s : Traffic} {i n : Nat} {r : Request} {action : Action}
    (hwaiting : s.exchange? i = some ⟨n, r, .waiting action⟩) (hfree : s.lock = .free) :
    ReflTransGen Step s (s.serve i n r action) := by
  have hdone := (reach_done (s := s.take i n r action) rfl).head (.acquire hwaiting hfree)
  have hback := hdone.tail (.release (Function.update_self i _ _) rfl)
  have hsame : s.serve i n r action = Traffic.giveBack { s.take i n r action with
      store := (action.work.run.run s.store).2
      lock := .held i (.done (action.work.run.run s.store).1) } i n r
        (action.work.run.run s.store).1 := by
    obtain ⟨store, lock, exchange?, served⟩ := s
    obtain rfl : lock = .free := hfree
    simp only [serve, giveBack, take, put, Function.update_idem]
  rw [hsame]
  exact hback

/-! ### The order of the lock -/

/-- What has to be so at a stage: only who took the lock was served, and who
is being served has it. -/
def Fits (s : Traffic) (i : Nat) (r : Request) : Stage → Prop
  | .sent => i ∉ s.served.map Prod.fst
  | .waiting action => i ∉ s.served.map Prod.fst ∧ r.action = .ok action
  | .serving => (i, r) ∈ s.served ∧ s.owner? = some i
  | .answered a | .received a =>
    (i, r) ∈ s.served ∨ ∃ why, r.action = .error why ∧ a = (Outcome.refused why).answer

/-- Answers and store are those of the requests one at a time, in the order
in which they took the lock. The one who has it is taken to be done. -/
structure IsSerial (c₀ : Connection) (s : Traffic) : Prop where
  settled : s.settled = ((s.requests.mapM handle).run c₀).2
  answers : s.served.map (fun p => s.answer? p.1) = ((s.requests.mapM handle).run c₀).1.map some
  nodup : (s.served.map Prod.fst).Nodup
  known : ∀ p ∈ s.served,
    (∃ action, p.2.action = .ok action) ∧ ∃ n stage, s.exchange? p.1 = some ⟨n, p.2, stage⟩
  fits : ∀ i n r stage, s.exchange? i = some ⟨n, r, stage⟩ → s.Fits i r stage

variable {c₀ : Connection} {s s' : Traffic} {i : Nat}

/-- Only the request that comes to a stage is changed. -/
theorem exchange?_put (s : Traffic) (i j : Nat) (e : Exchange) :
    (s.put i e).exchange? j = if j = i then some e else s.exchange? j :=
  Function.update_apply s.exchange? i (some e) j

/-- A request that is known stays so, whichever one comes to a stage. -/
theorem exists_exchange?_put {j : Nat} {r : Request} {e : Exchange}
    (h : ∃ n stage, s.exchange? j = some ⟨n, r, stage⟩) (hsame : j = i → e.request = r) :
    ∃ n stage, (s.put i e).exchange? j = some ⟨n, r, stage⟩ := by
  rw [exchange?_put]
  split
  next hji => exact ⟨e.client, e.stage, by rw [← hsame hji]⟩
  next => exact h

/-- Without the lock the answer of a request is told by its stage. -/
theorem answer?_of_stage {n : Nat} {r : Request} {stage : Stage}
    (h : s.exchange? i = some ⟨n, r, stage⟩) (hstage : stage ≠ .serving) :
    s.answer? i = stage.answer? := by
  rw [answer?, h]
  cases stage <;> first | rfl | exact absurd rfl hstage

/-- With the lock it is the one that is owed. -/
theorem answer?_of_serving {n : Nat} {r : Request} (h : s.exchange? i = some ⟨n, r, .serving⟩) :
    s.answer? i = s.owed? := by
  rw [answer?, h]
  rfl

/-- The answer of a request depends only on how far it has come and, while
it has the lock, on what it will get. -/
theorem answer?_congr (hexchange : s'.exchange? i = s.exchange? i)
    (howed : s.owner? = some i → s'.owed? = s.owed?)
    (hfits : ∀ n r stage, s.exchange? i = some ⟨n, r, stage⟩ → s.Fits i r stage) :
    s'.answer? i = s.answer? i := by
  rw [answer?, answer?, hexchange]
  cases he : s.exchange? i with
  | none => rfl
  | some e =>
    obtain ⟨n, r, stage⟩ := e
    cases stage with
    | serving => exact howed (hfits n r .serving he).2
    | _ => rfl

/-- Nobody has a lock that is free. -/
theorem owner?_of_free (hfree : s.lock = .free) : s.owner? = none := by
  simp only [owner?, rest?, hfree, Option.map_none]

/-- And nothing is still to be done to the store then. -/
theorem settled_of_free (hfree : s.lock = .free) : s.settled = s.store := by
  simp only [settled, rest?, hfree]

/-- Only the exchange of the one who takes the lock comes to another stage. -/
theorem exchange?_take (s : Traffic) (i n : Nat) (r : Request) (action : Action) (j : Nat) :
    (s.take i n r action).exchange? j =
      if j = i then some ⟨n, r, .serving⟩ else s.exchange? j :=
  exchange?_put s i j _

/-- The request of the one who takes the lock comes last in the order. -/
theorem requests_take (s : Traffic) (i n : Nat) (r : Request) (action : Action) :
    (s.take i n r action).requests = s.requests ++ [r] :=
  List.map_append

/-- When the lock is taken, all others stay at their stages. Nobody of them
has it, since it was free. -/
theorem Fits.take {j : Nat} {r' : Request} {stage : Stage} (h : s.Fits j r' stage) (hji : j ≠ i)
    (hfree : s.lock = .free) (n : Nat) (r : Request) (action : Action) :
    (s.take i n r action).Fits j r' stage := by
  have hserved : (s.take i n r action).served = s.served ++ [(i, r)] := rfl
  have hnot (hj : j ∉ s.served.map Prod.fst) : j ∉ (s.take i n r action).served.map Prod.fst := by
    rw [hserved, List.map_append, List.mem_append, not_or]
    exact ⟨hj, fun hmem => hji (List.mem_singleton.mp hmem)⟩
  cases stage with
  | sent => exact hnot h
  | waiting other => exact ⟨hnot h.1, h.2⟩
  | serving =>
    have howner := h.2
    rw [owner?_of_free hfree] at howner
    cases howner
  | answered a => exact h.imp_left (List.mem_append_left _)
  | received a => exact h.imp_left (List.mem_append_left _)

/-- Only the exchange of the one who gives the lock back comes to another
stage. -/
theorem exchange?_giveBack (s : Traffic) (i n : Nat) (r : Request) (o : Outcome) (j : Nat) :
    (s.giveBack i n r o).exchange? j =
      if j = i then some ⟨n, r, .answered o.answer⟩ else s.exchange? j :=
  exchange?_put s i j _

/-- When the lock is given back, all others stay at their stages. Nobody of
them had it. -/
theorem Fits.giveBack {j : Nat} {r' : Request} {stage : Stage} (h : s.Fits j r' stage) (hji : j ≠ i)
    (howner : s.owner? = some i) (n : Nat) (r : Request) (o : Outcome) :
    (s.giveBack i n r o).Fits j r' stage := by
  cases stage with
  | serving => exact absurd (Option.some.inj (h.2.symm.trans howner)) hji
  | _ => exact h

namespace IsSerial

/-- Before anything happens, the order is empty and nobody has an answer. -/
theorem start (c₀ : Connection) : IsSerial c₀ (.start c₀) where
  settled := rfl
  answers := rfl
  nodup := .nil
  known p hp := by cases hp
  fits i n r stage h := by cases h

/-- A request comes to a stage without the store. If it was served before,
its answer is the same. -/
theorem put (h : IsSerial c₀ s) {e : Exchange} (hfits : s.Fits i e.request e.stage)
    (hserved : ∀ r, (i, r) ∈ s.served → e.request = r ∧ (s.put i e).answer? i = s.answer? i) :
    IsSerial c₀ (s.put i e) where
  settled := h.settled
  answers := by
    refine Eq.trans (List.map_congr_left fun p hp => ?_) h.answers
    by_cases hi : p.1 = i
    · subst hi
      exact (hserved p.2 hp).2
    · exact answer?_congr (by rw [exchange?_put, if_neg hi]) (fun _ => rfl) (h.fits p.1)
  nodup := h.nodup
  known p hp := by
    obtain ⟨hasks, he⟩ := h.known p hp
    exact ⟨hasks, exists_exchange?_put he fun hi => (hserved p.2 (hi ▸ hp)).1⟩
  fits j n r stage hj := by
    rw [exchange?_put] at hj
    split at hj
    next hji =>
      cases hj
      exact hji ▸ hfits
    next => exact h.fits j n r stage hj

/-- The one who has the lock goes on. Nothing of it can be seen by others
until the lock is given back, so nothing is changed for them. -/
theorem work (h : IsSerial c₀ s) (hexchange : s'.exchange? = s.exchange?)
    (hserved : s'.served = s.served) (howner : s'.owner? = s.owner?)
    (hsettled : s'.settled = s.settled) (howed : s'.owed? = s.owed?) : IsSerial c₀ s' where
  settled := by rw [hsettled, h.settled, requests, requests, hserved]
  answers := by
    rw [requests, hserved]
    refine Eq.trans (List.map_congr_left fun p hp => ?_) h.answers
    exact answer?_congr (by rw [hexchange]) (fun _ => howed) (h.fits p.1)
  nodup := by rw [hserved]; exact h.nodup
  known := by rw [hserved, hexchange]; exact h.known
  fits i n r stage hi := by
    have hfits := h.fits i n r stage (hexchange ▸ hi)
    cases stage <;> simpa only [Fits, hserved, howner] using hfits

/-- Whoever finds the lock free works on the store as the requests before
left it. -/
theorem run_work (h : IsSerial c₀ s) {r : Request} {action : Action} (haction : r.action = .ok action)
    (hfree : s.lock = .free) :
    action.work.run.run s.store = (outcome r).run ((s.requests.mapM handle).run c₀).2 := by
  rw [Action.run_work, outcome, haction, ← h.settled, settled_of_free hfree]

/-- Who takes the lock will get the answer that comes next in the order, and
those who had it before keep theirs. -/
theorem answers_take (h : IsSerial c₀ s) {n : Nat} {r : Request} {action : Action}
    (hnew : i ∉ s.served.map Prod.fst) (haction : r.action = .ok action) (hfree : s.lock = .free) :
    (s.take i n r action).served.map (fun p => (s.take i n r action).answer? p.1) =
      (((s.requests ++ [r]).mapM handle).run c₀).1.map some := by
  have hserved : (s.take i n r action).served = s.served ++ [(i, r)] := rfl
  have hanswer : (s.take i n r action).answer? i =
      some ((outcome r).run ((s.requests.mapM handle).run c₀).2).1.answer := by
    rw [answer?_of_serving ((exchange?_take ..).trans (if_pos rfl)), ← h.run_work haction hfree]
    rfl
  rw [run_mapM_handle_append, hserved, List.map_append, List.map_append, ← h.answers,
    List.map_singleton, hanswer]
  refine congrArg (· ++ _) (List.map_congr_left fun p hp => ?_)
  have hother : p.1 ≠ i := fun heq => hnew (heq ▸ List.mem_map_of_mem hp)
  refine answer?_congr ((exchange?_take ..).trans (if_neg hother)) (fun howner => ?_) (h.fits p.1)
  rw [owner?_of_free hfree] at howner
  cases howner

/-- Who takes the lock comes next in the order, and will get the answer that
comes next there. -/
theorem take (h : IsSerial c₀ s) {n : Nat} {r : Request} {action : Action}
    (hwaiting : s.exchange? i = some ⟨n, r, .waiting action⟩) (hfree : s.lock = .free) :
    IsSerial c₀ (s.take i n r action) := by
  obtain ⟨hnew, haction⟩ := h.fits i n r _ hwaiting
  have hserved : (s.take i n r action).served = s.served ++ [(i, r)] := rfl
  constructor
  case settled =>
    rw [requests_take, run_mapM_handle_append]
    exact congrArg Prod.snd (h.run_work haction hfree)
  case answers =>
    rw [requests_take]
    exact h.answers_take hnew haction hfree
  case nodup =>
    rw [hserved, List.map_append, List.nodup_append]
    refine ⟨h.nodup, List.pairwise_singleton _ i, fun j hj k hk => ?_⟩
    obtain rfl := List.mem_singleton.mp hk
    rintro rfl
    exact hnew hj
  case known =>
    intro p hp
    rcases List.mem_append.mp hp with hp | hp
    · obtain ⟨hasks, he⟩ := h.known p hp
      exact ⟨hasks, exists_exchange?_put he fun heq => absurd (heq ▸ List.mem_map_of_mem hp) hnew⟩
    · obtain rfl := List.mem_singleton.mp hp
      exact ⟨⟨action, haction⟩, n, .serving, (exchange?_take ..).trans (if_pos rfl)⟩
  case fits =>
    intro j m r' stage hj
    rw [exchange?_take] at hj
    split at hj
    next hji =>
      cases hj
      exact ⟨List.mem_append_right _ (List.mem_singleton.mpr (by rw [hji])), hji ▸ rfl⟩
    next hji => exact (h.fits j m r' stage hj).take hji hfree n r action

/-- Who gives the lock back has got the answer that was owed, and nobody
else has got one. -/
theorem answer?_giveBack (h : IsSerial c₀ s) {n : Nat} {r : Request} {o : Outcome}
    (hserving : s.exchange? i = some ⟨n, r, .serving⟩) (hheld : s.lock = .held i (.done o)) (j : Nat) :
    (s.giveBack i n r o).answer? j = s.answer? j := by
  by_cases hji : j = i
  · have howed : s.owed? = some o.answer := by
      simp only [owed?, rest?, hheld]
      rfl
    rw [hji, answer?_of_serving hserving, howed,
      answer?_of_stage ((exchange?_giveBack s i n r o i).trans (if_pos rfl)) (by simp)]
    rfl
  · refine answer?_congr ((exchange?_giveBack ..).trans (if_neg hji)) (fun hother => ?_) (h.fits j)
    have howner : s.owner? = some i := (h.fits i n r _ hserving).2
    exact absurd (Option.some.inj (hother.symm.trans howner)) hji

/-- So nothing changes in the order, and the store is the settled one. -/
theorem giveBack (h : IsSerial c₀ s) {n : Nat} {r : Request} {o : Outcome}
    (hserving : s.exchange? i = some ⟨n, r, .serving⟩) (hheld : s.lock = .held i (.done o)) :
    IsSerial c₀ (s.giveBack i n r o) := by
  obtain ⟨hmem, howner⟩ := h.fits i n r _ hserving
  constructor
  case settled =>
    have hsettled : s.settled = s.store := by
      simp only [Traffic.settled, rest?, hheld]
      rfl
    exact hsettled.symm.trans h.settled
  case answers =>
    exact (List.map_congr_left fun p _ => h.answer?_giveBack hserving hheld p.1).trans h.answers
  case nodup => exact h.nodup
  case known =>
    intro p hp
    obtain ⟨hasks, he⟩ := h.known p hp
    -- The request is the one that has the lock.
    refine ⟨hasks, exists_exchange?_put he fun hpi => ?_⟩
    obtain ⟨m, stage, he⟩ := he
    rw [hpi, hserving] at he
    cases he
    rfl
  case fits =>
    intro j m r' stage hj
    rw [exchange?_giveBack] at hj
    split at hj
    next hji =>
      cases hj
      exact .inl (hji ▸ hmem)
    next hji => exact (h.fits j m r' stage hj).giveBack hji howner n r o

/-- Whatever happens next, the order of the lock tells what comes of it.
There is one case for each kind of step, and only taking the lock makes the
order longer. -/
theorem step (h : IsSerial c₀ s) (hstep : Step s s') : IsSerial c₀ s' := by
  cases hstep with
  | send n r new =>
    have hnew (r' : Request) : (_, r') ∉ s.served := fun hmem => by
      obtain ⟨-, n', stage, he⟩ := h.known _ hmem
      rw [new] at he
      cases he
    refine h.put (fun hin => ?_) fun r' hmem => absurd hmem (hnew r')
    obtain ⟨⟨_, r'⟩, hmem, rfl⟩ := List.mem_map.mp hin
    exact hnew r' hmem
  | refuse sent refused =>
    have hnew := h.fits _ _ _ _ sent
    exact h.put (.inr ⟨_, refused, rfl⟩) fun r' hmem => absurd (List.mem_map_of_mem hmem) hnew
  | read sent asks =>
    have hnew := h.fits _ _ _ _ sent
    exact h.put ⟨hnew, asks⟩ fun r' hmem => absurd (List.mem_map_of_mem hmem) hnew
  | acquire waiting free => exact h.take waiting free
  | enter held =>
    refine h.work rfl rfl ?_ ?_ ?_ <;> simp only [owner?, Traffic.settled, owed?, rest?, held]
  -- What the tables look like during a call doesn't matter, as the call works on what it
  -- began with.
  | disturb inCall anything =>
    refine h.work rfl rfl ?_ ?_ ?_ <;> simp only [owner?, Traffic.settled, owed?, rest?, inCall]
  | leave inCall =>
    refine h.work rfl rfl ?_ ?_ ?_ <;> simp only [owner?, Traffic.settled, owed?, rest?, inCall] <;>
      rfl
  | release serving held => exact h.giveBack serving held
  | receive answered =>
    have hfits := h.fits _ _ _ _ answered
    have hanswer := answer?_of_stage answered (by simp)
    refine h.put hfits fun r' hmem => ⟨?_, ?_⟩
    · obtain ⟨-, n', stage, he⟩ := h.known _ hmem
      rw [answered] at he
      cases he
      rfl
    · rw [hanswer, answer?_of_stage ((exchange?_put s _ _ _).trans (if_pos rfl)) (by simp)]
      rfl

/-- So it is after every run, by induction on its steps. -/
theorem of_reachable (h : ReflTransGen Step (.start c₀) s) : IsSerial c₀ s := by
  induction h with
  | refl => exact start c₀
  | tail _ hstep ih => exact ih.step hstep

end IsSerial

/-! ### What every run comes to -/

/-- The requests that took the lock, one at a time in that order: their
answers, and the store after them. -/
def oneAtATime (c₀ : Connection) (s : Traffic) : List Answer × Connection :=
  (s.requests.mapM handle).run c₀

/-- A request has its answer. It may still be on its way to the client. -/
def HasAnswer (s : Traffic) (i : Nat) (r : Request) (a : Answer) : Prop :=
  ∃ n stage, s.exchange? i = some ⟨n, r, stage⟩ ∧ stage.answer? = some a

/-- A request took the lock at a place in the order, and an answer comes at
that place. -/
def HasPlace (c₀ : Connection) (s : Traffic) (k i : Nat) (r : Request) (a : Answer) : Prop :=
  s.served[k]? = some (i, r) ∧ (s.oneAtATime c₀).1[k]? = some a

/-- What clients have been answered and what the store is, told by the order
in which requests took the lock. -/
structure Linearized (c₀ : Connection) (s : Traffic) : Prop where
  /-- No request takes the lock twice. -/
  nodup : (s.served.map Prod.fst).Nodup
  /-- An answer is the one that comes at the request's place in the order. -/
  answer : ∀ i r a, s.HasAnswer i r a → (∃ action, r.Asks action) → ∃ k, s.HasPlace c₀ k i r a
  /-- A request that asks for nothing has no place in the order, and would be
  answered alike at every place. -/
  refused : ∀ i r a, s.HasAnswer i r a → (¬ ∃ action, r.Asks action) →
    i ∉ s.served.map Prod.fst ∧ ∀ c, (handle r).run c = (a, c)
  /-- Once nobody has the lock, all who had it are answered. -/
  answered : s.lock = .free → ∀ p ∈ s.served, ∃ a, s.HasAnswer p.1 p.2 a
  store : s.lock = .free → s.store = (s.oneAtATime c₀).2
  /-- A count is the size of the map after the work of some whole requests
  that took the lock before. -/
  count : ∀ i r a id, s.HasAnswer i r a → r.Asks (.countEntries id) → a.status = 200 →
    ∃ k accepted t size, s.HasPlace c₀ k i r a ∧ List.Sublist accepted (s.requests.take k) ∧
      AcceptedInTurn accepted c₀.tables t ∧ Count.decode? a.body = some size ∧
      ((Store.mapSize id).run (.fresh t)).1 = .ok size
  /-- All keys of a batch that was written are in the map, unless a later one
  in the order removes the object. So two batches don't lose each other's
  keys. -/
  keys : ∀ i r a id batch, s.HasAnswer i r a → r.Asks (.writeEntries id batch) →
    a.status = 200 → s.lock = .free → ∃ k, s.HasPlace c₀ k i r a ∧
      ((∃ l j r', k < l ∧ s.served[l]? = some (j, r') ∧ r'.Asks (.removeObject id)) ∨
        ∀ key ∈ batch.keys, s.store.tables.HasEntry ⟨id, key⟩)

namespace IsSerial

variable {r : Request} {a : Answer} {k : Nat}

/-- A request that asks for something is answered at its place in the
order. -/
theorem exists_hasPlace (h : IsSerial c₀ s) (hanswer : s.HasAnswer i r a)
    (hasks : ∃ action, r.Asks action) : ∃ k, s.HasPlace c₀ k i r a := by
  obtain ⟨n, stage, he, hstage⟩ := hanswer
  have hmem : (i, r) ∈ s.served := by
    obtain ⟨action, hasks⟩ := hasks
    have hserved (hfits : (i, r) ∈ s.served ∨
        ∃ why, r.action = .error why ∧ a = (Outcome.refused why).answer) : (i, r) ∈ s.served := by
      refine hfits.resolve_right fun ⟨why, hwhy, _⟩ => ?_
      rw [Request.asks_iff, hwhy] at hasks
      cases hasks
    have hfits := h.fits i n r stage he
    cases stage <;> cases hstage <;> exact hserved hfits
  obtain ⟨k, hk⟩ := List.getElem?_of_mem hmem
  have hat := congrArg (·[k]?) h.answers
  have hgets : s.answer? i = some a := by
    rw [answer?_of_stage he (by rintro rfl; cases hstage), hstage]
  simp only [List.getElem?_map, hk, Option.map_some, hgets] at hat
  obtain ⟨a', ha', hsome⟩ := Option.map_eq_some_iff.mp hat.symm
  exact ⟨k, hk, ha'.trans hsome⟩

/-- A request that asks for nothing is refused, whenever that is. It would
be refused on any store, so it needs no place in the order. -/
theorem refused (h : IsSerial c₀ s) (hanswer : s.HasAnswer i r a)
    (hasks : ¬ ∃ action, r.Asks action) :
    i ∉ s.served.map Prod.fst ∧ ∀ c, (handle r).run c = (a, c) := by
  obtain ⟨n, stage, he, hstage⟩ := hanswer
  have hnot : i ∉ s.served.map Prod.fst := by
    intro hin
    obtain ⟨⟨_, r'⟩, hmem, rfl⟩ := List.mem_map.mp hin
    obtain ⟨⟨action, haction⟩, n', stage', he'⟩ := h.known _ hmem
    rw [he] at he'
    cases he'
    exact hasks ⟨action, Request.asks_iff.mpr haction⟩
  have hrefused (hfits : (i, r) ∈ s.served ∨
      ∃ why, r.action = .error why ∧ a = (Outcome.refused why).answer) (c : Connection) :
      (handle r).run c = (a, c) := by
    obtain ⟨why, hwhy, rfl⟩ := hfits.resolve_left fun hmem => hnot (List.mem_map_of_mem hmem)
    rw [run_handle, outcome, hwhy]
    rfl
  have hfits := h.fits i n r stage he
  refine ⟨hnot, ?_⟩
  cases stage <;> cases hstage <;> exact hrefused hfits

/-- Who took a lock that is free again has an answer. Nobody keeps the lock
without one. -/
theorem answered (h : IsSerial c₀ s) (hfree : s.lock = .free) {p : Nat × Request}
    (hp : p ∈ s.served) : ∃ a, s.HasAnswer p.1 p.2 a := by
  obtain ⟨-, n, stage, he⟩ := h.known p hp
  have hfits := h.fits _ _ _ _ he
  have hin : p.1 ∈ s.served.map Prod.fst := List.mem_map_of_mem hp
  cases stage with
  | sent => exact absurd hin hfits
  | waiting action => exact absurd hin hfits.1
  | serving =>
    have howner := hfits.2
    rw [owner?_of_free hfree] at howner
    cases howner
  | answered a => exact ⟨a, n, _, he, rfl⟩
  | received a => exact ⟨a, n, _, he, rfl⟩

end IsSerial

namespace HasPlace

variable {r : Request} {a : Answer} {k : Nat}

/-- What is known of a request at its place in the order is what is known of
it if requests come one at a time. -/
theorem answered (h : s.HasPlace c₀ k i r a) :
    Answered r a (((s.requests.take k).mapM handle).run c₀).2
      (((s.requests.take (k + 1)).mapM handle).run c₀).2 := by
  obtain ⟨hserved, hanswer⟩ := h
  have hrequest : s.requests[k]? = some r := by
    rw [requests, List.getElem?_map, hserved]
    rfl
  have hhandle := answered_handle r (((s.requests.take k).mapM handle).run c₀).2
  rw [run_handle_of_getElem? hrequest hanswer] at hhandle
  rw [List.take_add_one, hrequest, run_mapM_handle_append]
  exact hhandle

/-- A count is the size of the map after the work of whole requests. Half of
a batch is never counted. -/
theorem count (h : s.HasPlace c₀ k i r a) {id : ObjectId} (hasks : r.Asks (.countEntries id))
    (hstatus : a.status = 200) :
    ∃ accepted t size, List.Sublist accepted (s.requests.take k) ∧
      AcceptedInTurn accepted c₀.tables t ∧ Count.decode? a.body = some size ∧
      ((Store.mapSize id).run (.fresh t)).1 = .ok size := by
  obtain ⟨accepted, hsub, hturn⟩ := exists_acceptedInTurn (s.requests.take k) c₀
  obtain ⟨action, hasks', hdid, -⟩ := h.answered.did hstatus
  rw [Request.asks_iff] at hasks hasks'
  obtain rfl := Except.ok.inj (hasks.symm.trans hasks')
  obtain ⟨hsame, size, hdecode, hsize⟩ := hdid
  refine ⟨accepted, _, size, hsub, hturn, hdecode, ?_⟩
  rw [hsame, Store.mapSize, Store.run_countEntries] at hsize
  rw [Store.mapSize, Store.run_countEntries]
  exact congrArg Prod.fst hsize

/-- The keys of a batch are in the map until the object is removed. Requests
that come later may add keys and overwrite values. -/
theorem keys (h : s.HasPlace c₀ k i r a) {id : ObjectId} {batch : Batch}
    (hasks : r.Asks (.writeEntries id batch)) (hstatus : a.status = 200) :
    (∃ l j r', k < l ∧ s.served[l]? = some (j, r') ∧ r'.Asks (.removeObject id)) ∨
      ∀ key ∈ batch.keys, (s.oneAtATime c₀).2.tables.HasEntry ⟨id, key⟩ := by
  by_cases hlater : ∃ l j r', k < l ∧ s.served[l]? = some (j, r') ∧ r'.Asks (.removeObject id)
  · exact .inl hlater
  · refine .inr fun key hkey => ?_
    have hnot : ∀ r' ∈ s.requests.drop (k + 1), ¬ r'.Asks (.removeObject id) := by
      intro r' hr' hremoves
      rw [requests, ← List.map_drop] at hr'
      obtain ⟨⟨j, _⟩, hmem, rfl⟩ := List.mem_map.mp hr'
      obtain ⟨l, hl⟩ := List.getElem?_of_mem hmem
      rw [List.getElem?_drop] at hl
      exact hlater ⟨k + 1 + l, j, _, by omega, hl, hremoves⟩
    have hhas := hasEntry_mapM (h.answered.hasEntry hstatus hasks hkey) hnot
    rw [oneAtATime, ← List.take_append_drop (k + 1) s.requests, run_mapM_handle_append]
    exact hhas

end HasPlace

/-- Whatever requests are sent, by however many clients, and in whatever
order they are read, get the lock, call the store and are answered: the
order in which they get the lock tells all answers and the store. -/
theorem linearizable (h : ReflTransGen Step (.start c₀) s) : Linearized c₀ s := by
  have hserial := IsSerial.of_reachable h
  have hstore (hfree : s.lock = .free) : s.store = (s.oneAtATime c₀).2 :=
    (settled_of_free hfree).symm.trans hserial.settled
  exact
    { nodup := hserial.nodup
      answer := fun i r a hanswer hasks => hserial.exists_hasPlace hanswer hasks
      refused := fun i r a hanswer hasks => hserial.refused hanswer hasks
      answered := fun hfree p hp => hserial.answered hfree hp
      store := hstore
      count := fun i r a id hanswer hasks hstatus => by
        obtain ⟨k, hplace⟩ := hserial.exists_hasPlace hanswer ⟨_, hasks⟩
        obtain ⟨accepted, t, size, hcount⟩ := hplace.count hasks hstatus
        exact ⟨k, accepted, t, size, hplace, hcount⟩
      keys := fun i r a id batch hanswer hasks hstatus hfree => by
        obtain ⟨k, hplace⟩ := hserial.exists_hasPlace hanswer ⟨_, hasks⟩
        rw [hstore hfree]
        exact ⟨k, hplace, hplace.keys hasks hstatus⟩ }

/-- Two clients write to one object at a time. The second one gets the lock
first, and nothing of either batch is lost. -/
theorem linearizable_twoBatches :
    let id : ObjectId := ⟨"ben", "hw"⟩
    let batch (key : String) : Batch := ⟨[⟨key, [1]⟩]⟩
    let post (key : String) : Request :=
      ⟨"POST", "/v1/pools/ben/objects/hw/omap", (batch key).encode⟩
    let c₀ := ((Store.createPool "ben").run (.fresh .empty)).2
    ∃ s : Traffic, ReflTransGen Step (.start c₀) s ∧ s.lock = .free ∧
      s.served = [(1, post "b"), (0, post "a")] ∧
      s.store.tables.HasEntry ⟨id, "a"⟩ ∧ s.store.tables.HasEntry ⟨id, "b"⟩ := by
  intro id batch post c₀
  have hpath : pieces? "/v1/pools/ben/objects/hw/omap" =
      some ["v1", "pools", "ben", "objects", "hw", "omap"] := by decide +kernel
  have hasks (key : String) : (post key).Asks (.writeEntries id (batch key)) := by
    refine ⟨.writeEntries id, ⟨rfl, hpath⟩, ?_⟩
    simp only [Route.action, post, Batch.decode?_encode]
  have haction (key : String) : (post key).action = .ok (.writeEntries id (batch key)) :=
    Request.asks_iff.mp (hasks key)
  -- Both requests are sent and read before either of them gets the lock.
  have hsent : ReflTransGen Step (.start c₀)
      (((start c₀).put 0 ⟨0, post "a", .sent⟩).put 1 ⟨1, post "b", .sent⟩) :=
    (ReflTransGen.single (.send 0 (post "a") rfl)).tail (.send 1 (post "b") rfl)
  have hread := (hsent.tail (.read (i := 1) (n := 1) rfl (haction "b"))).tail
    (.read (i := 0) (n := 0) rfl (haction "a"))
  have hfirst := hread.trans (reach_serve (i := 1) (n := 1) rfl rfl)
  have hboth := hfirst.trans (reach_serve (i := 0) (n := 0) rfl rfl)
  have hlinear := linearizable hboth
  have hnone (l j : Nat) (r : Request) (hserved : [(1, post "b"), (0, post "a")][l]? = some (j, r)) :
      ¬ r.Asks (.removeObject id) := by
    intro hremoves
    have hmem := List.mem_of_getElem? hserved
    simp only [List.mem_cons, Prod.mk.injEq, List.not_mem_nil, or_false] at hmem
    rw [Request.asks_iff] at hremoves
    rcases hmem with ⟨-, rfl⟩ | ⟨-, rfl⟩ <;> rw [haction] at hremoves <;> cases hremoves
  refine ⟨_, hboth, rfl, rfl, ?_, ?_⟩
  · obtain ⟨k, -, ⟨l, j, r, -, hserved, hremoves⟩ | hkeys⟩ := hlinear.keys 0 (post "a") _ id
      (batch "a") ⟨0, _, rfl, rfl⟩ (hasks "a") (by decide +kernel) rfl
    · exact absurd hremoves (hnone l j r hserved)
    · exact hkeys "a" List.mem_cons_self
  · obtain ⟨k, -, ⟨l, j, r, -, hserved, hremoves⟩ | hkeys⟩ := hlinear.keys 1 (post "b") _ id
      (batch "b") ⟨1, _, rfl, rfl⟩ (hasks "b") (by decide +kernel) rfl
    · exact absurd hremoves (hnone l j r hserved)
    · exact hkeys "b" List.mem_cons_self

end Traffic

end MapBench
