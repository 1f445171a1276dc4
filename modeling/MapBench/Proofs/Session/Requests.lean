import MapBench.Proofs.Run.Loop
import MapBench.Proofs.Session.BaseUrl
import MapBench.Proofs.Session.Deployment

/-!
# `MapBench.Proofs.Session.Requests`: what a session asks a server

A server may answer anything: whatever status and body it likes, from
all that it was ever asked, or nothing at all. Whatever it does, a
session sends one request for each of its calls, tells what it heard,
and goes on as it would have otherwise.

* `Responder`: a server, as a function of what it was asked.
* `reported`: what a session takes from what it hears.
* `RemoteSession.AsksOnce`, `asksOnce_opened`: the requests of a session
  with such a server and the replies that they come to, call by call,
  over many calls, and in a whole run.
-/

set_option autoImplicit false

namespace MapBench

open Url RemoteSession

/-! ### Servers that answer anything -/

/-- What a server says to a request, from all that it was asked, with that
request last: an answer, or why there is none. -/
abbrev Responder := List Outgoing → Except String Api.Answer

/-- A network that keeps the requests that are sent. Each is kept before it
is answered, so a request without an answer is known, too. -/
def Network.answering (readHost : HostReader) (server : Responder) :
    Network (StateM (List Outgoing)) where
  readHost
  carry r sent := (server (sent ++ [r]), sent ++ [r])

namespace World

/-- A world whose network leads to a server. Its disk is there for sessions
of the other kind. -/
abbrev reaching (readHost : HostReader) (server : Responder) :
    StoreAccess (StateM (World (List Outgoing))) :=
  access (Network.answering readHost server)

/-- The world after a request was sent. Nothing else of it has changed. -/
def sending (w : World (List Outgoing)) (r : Outgoing) : World (List Outgoing) :=
  { w with net := w.net ++ [r] }

end World

/-- What a session takes from what it hears of a request for an address. It
is told by the status and by the transport, and by nothing that was heard
before. -/
def reported (url : String) (u : Url) : Except String Api.Answer → Except SessionError Api.Answer
  | .ok answer =>
    if 200 ≤ answer.status ∧ answer.status ≤ 299 then .ok answer
    else .error (.rejected url answer.status)
  | .error reason => .error (.request (.failed u reason))

/-- What comes of asking for a pool. A status of success that isn't 200
won't do here. -/
def openReported (base pool : String) (u : Url) : Except String Api.Answer → Except SessionError Session
  | .ok answer =>
    if answer.status = 200 then .ok (.remote (opened base pool))
    else .error (.poolOpen pool (.answered answer.status))
  | .error reason => .error (.poolOpen pool (.transport (.failed u reason)))

section

variable {readHost : HostReader} {server : Responder} {base pool : String}

/-- A request to an address that can be read is sent once, whatever comes of
it. -/
theorem run_send_reaching (server : Responder) {text : String} {u : Url} (h : Url.parse readHost text = .ok u)
    (method : String) (contentType : Option String) (body : List UInt8) (w : World (List Outgoing)) :
    ((World.reaching readHost server).net.send method text contentType body).run w =
      ((server (w.net ++ [⟨method, u, contentType, body⟩])).mapError (.failed u),
        w.sending ⟨method, u, contentType, body⟩) := by
  rw [Network.send_of_parse (World.reaching readHost server).net h]
  rfl

/-- To connect is to ask for the pool once. If there is no session in the
end, nothing more is asked. -/
theorem run_connect_reaching (server : Responder) {u : Url}
    (h : Url.parse readHost (trimSlashes base ++ Api.poolPath pool) = .ok u) (w : World (List Outgoing)) :
    (Session.connect (World.reaching readHost server) (.remote base) pool).run w =
      (openReported base pool u (server (w.net ++ [⟨"GET", u, none, []⟩])),
        w.sending ⟨"GET", u, none, []⟩) := by
  rw [Session.connect, StateT.run_bind, RemoteSession.run_connect_eq, run_send_reaching server h]
  cases server (w.net ++ [⟨"GET", u, none, []⟩]) with
  | error reason => rfl
  | ok answer =>
    show ((connected base pool answer).map Session.remote, _) = (openReported base pool u (.ok answer), _)
    rw [connected, openReported]
    split <;> rfl

/-- The statuses of success are those from 200 to 299, which is the same
condition in other words. -/
theorem judged_eq_reported (url : String) (u : Url) (answer : Api.Answer) :
    judged url answer = reported url u (.ok answer) := by
  have hiff : isSuccess answer.status = true ↔ 200 ≤ answer.status ∧ answer.status ≤ 299 := by
    rw [isSuccess, Bool.and_eq_true, decide_eq_true_iff, decide_eq_true_iff]
    omega
  rw [judged, reported]
  by_cases h : isSuccess answer.status = true
  · rw [if_pos h, if_pos (hiff.mp h)]
  · rw [if_neg h, if_neg (mt hiff.mpr h)]

/-- An open session sends a request once, and reports what it hears. -/
theorem run_sendOpen_reaching (server : Responder) {path : String} {u : Url}
    (h : Url.parse readHost (trimSlashes base ++ path) = .ok u) (method : String)
    (contentType : Option String) (body : List UInt8) (w : World (List Outgoing)) :
    ((opened base pool).send (World.reaching readHost server).net method path contentType body).run w =
      (reported (trimSlashes base ++ path) u (server (w.net ++ [⟨method, u, contentType, body⟩])),
        w.sending ⟨method, u, contentType, body⟩) := by
  have hopen : (opened base pool).isOpen = true := rfl
  have hurl : (opened base pool).url path = trimSlashes base ++ path := rfl
  rw [run_send_of_open hopen, hurl, run_send_reaching server h]
  cases server (w.net ++ [⟨method, u, contentType, body⟩]) with
  | error reason => rfl
  | ok answer => exact Prod.ext (judged_eq_reported _ u answer) rfl

/-- A step of an open session that needs a request sends it once. What the
server says to it is told in the reply, and nowhere else. -/
theorem run_answer_reaching (server : Responder) {step : SessionStep} {route : Api.Route}
    {body : List UInt8} {u : Url} (hstep : step.request? pool = some (route, body))
    (h : Url.parse readHost (trimSlashes base ++ route.path) = .ok u) (w : World (List Outgoing)) :
    ((Session.remote (opened base pool)).answer (World.reaching readHost server) step).run w =
      (step.replyTo (reported (trimSlashes base ++ route.path) u
          (server (w.net ++ [⟨route.method, u, route.contentType, body⟩]))),
        w.sending ⟨route.method, u, route.contentType, body⟩) := by
  have hpool : (opened base pool).pool = pool := rfl
  rw [answer_of_request? (hpool ▸ hstep), StateT.run_bind, run_sendOpen_reaching server h]
  rfl

/-- What an open session makes of a step for which it asks nobody. A write
that it didn't prepare is none of its own. -/
def RemoteSession.unasked : SessionStep → SessionReply
  | .prepare batch => .prepared (.body batch.encode)
  | .close => .done
  | _ => .failed .foreignWriteOp

/-- Any other step asks nobody. Its reply is told by the step alone. -/
theorem answer_of_unasked {m : Type → Type} [Monad m] [LawfulMonad m] {access : StoreAccess m}
    {step : SessionStep} (h : step.request? pool = none) :
    (Session.remote (opened base pool)).answer access step = pure (unasked step) := by
  cases step with
  | operate object op =>
    cases op with
    | pairs batch => exact Session.answer_operate_of_not_owns rfl object
    | body bytes => cases h
  | prepare batch =>
    have hprepare : ((Session.remote (opened base pool)).storage access).prepare batch =
        pure (.ok (.body batch.encode)) := pure_bind _ _
    exact (congrArg (· >>= fun prepared => pure (SessionReply.of .prepared prepared)) hprepare).trans
      (pure_bind _ _)
  | close => rfl
  | _ => cases h

/-! ### Many steps -/

/-- The request that a session sends for a step. It depends on the step and
on what the session was opened with. -/
def RemoteSession.outgoing? (readHost : HostReader) (base pool : String) (step : SessionStep) :
    Option Outgoing := do
  let (route, body) ← step.request? pool
  let u ← (Url.parse readHost (trimSlashes base ++ route.path)).toOption
  return ⟨route.method, u, route.contentType, body⟩

/-- A step with a request sends it if the address can be read. -/
theorem outgoing?_of_request? {step : SessionStep} {route : Api.Route} {body : List UInt8} {u : Url}
    (hstep : step.request? pool = some (route, body))
    (h : Url.parse readHost (trimSlashes base ++ route.path) = .ok u) :
    outgoing? readHost base pool step = some ⟨route.method, u, route.contentType, body⟩ := by
  rw [outgoing?, hstep, Option.bind_eq_bind, Option.bind_some]
  simp only [h]
  rfl

/-- The requests that a session sends for steps. There are none behind the
first close. -/
def RemoteSession.requests (readHost : HostReader) (base pool : String) : List SessionStep → List Outgoing
  | [] => []
  | .close :: _ => []
  | step :: steps => (outgoing? readHost base pool step).toList ++ requests readHost base pool steps

/-- A step sends at most one request, and tells what the server says to it.
Neither the request nor what is made of the answer depends on the server or
on what was asked before. -/
theorem IsBaseUrl.exists_reply (h : IsBaseUrl readHost base) (pool : String) (step : SessionStep) :
    ∃ reply : Option (Except String Api.Answer) → SessionReply, ∀ server w,
      ((Session.remote (opened base pool)).answer (World.reaching readHost server) step).run w =
        (reply ((outgoing? readHost base pool step).map fun r => server (w.net ++ [r])),
          { w with net := w.net ++ (outgoing? readHost base pool step).toList }) := by
  cases hstep : step.request? pool with
  | none =>
    have hnone : outgoing? readHost base pool step = none := by
      rw [outgoing?, hstep]
      rfl
    refine ⟨fun _ => unasked step, fun server w => ?_⟩
    rw [answer_of_unasked hstep, hnone, Option.toList_none, List.append_nil]
    rfl
  | some request =>
    obtain ⟨route, body⟩ := request
    obtain ⟨u, hparse⟩ := h.exists_parse route.toList_path
    refine ⟨fun heard => step.replyTo
      (heard.elim (.error .closed) (reported (trimSlashes base ++ route.path) u)), fun server w => ?_⟩
    rw [run_answer_reaching server hstep hparse, outgoing?_of_request? hstep hparse]
    rfl

/-- What an open session does next, after a step that leaves it open. -/
theorem answers_cons_of_ne_close {m : Type → Type} [Monad m] {access : StoreAccess m} {s : Session}
    {step : SessionStep} (h : step ≠ .close) (steps : List SessionStep) :
    s.answers access (step :: steps) = do
      let reply ← s.answer access step
      let replies ← s.answers access steps
      return reply :: replies := by
  cases step with
  | close => exact absurd rfl h
  | _ => rfl

/-- The requests for steps are those for the first, and then those for the
others. -/
theorem requests_cons_of_ne_close {step : SessionStep} (h : step ≠ .close) (steps : List SessionStep) :
    requests readHost base pool (step :: steps) =
      (outgoing? readHost base pool step).toList ++ requests readHost base pool steps := by
  cases step with
  | close => exact absurd rfl h
  | _ => rfl

/-- From the close on nothing is sent, and the replies say so. -/
theorem run_answers_close (server : Responder) (steps : List SessionStep) (w : World (List Outgoing)) :
    ((Session.remote (opened base pool)).answers (World.reaching readHost server) (.close :: steps)).run w =
      (.done :: steps.map (.whenClosed (Session.remote (opened base pool)).owns), w) := by
  have hclose : (Session.remote (opened base pool)).answers (World.reaching readHost server)
      ([] ++ .close :: steps) = _ := Session.answers_append_close (fun _ => rfl) [] steps
  rw [List.nil_append] at hclose
  rw [hclose]
  rfl

/-- What is sent in the course of steps is what the steps ask for, whatever
the server says. -/
theorem IsBaseUrl.snd_run_answers (h : IsBaseUrl readHost base) (pool : String) (server : Responder)
    (steps : List SessionStep) (w : World (List Outgoing)) :
    (((Session.remote (opened base pool)).answers (World.reaching readHost server) steps).run w).2 =
      { w with net := w.net ++ requests readHost base pool steps } := by
  induction steps generalizing w with
  | nil =>
    rw [requests, List.append_nil]
    rfl
  | cons step steps ih =>
    by_cases hclose : step = .close
    · subst hclose
      rw [run_answers_close, requests, List.append_nil]
    · obtain ⟨reply, hstep⟩ := h.exists_reply pool step
      rw [answers_cons_of_ne_close hclose, requests_cons_of_ne_close hclose, StateT.run_bind, hstep]
      refine (ih _).trans ?_
      rw [List.append_assoc]

/-- Two servers that go on to answer alike are told apart by nothing, not
even by what they were asked before. -/
theorem IsBaseUrl.answers_congr (h : IsBaseUrl readHost base) (pool : String) {server server' : Responder}
    (steps : List SessionStep) {w w' : World (List Outgoing)}
    (hsame : ∀ later, server' (w'.net ++ later) = server (w.net ++ later)) :
    (((Session.remote (opened base pool)).answers (World.reaching readHost server') steps).run w').1 =
      (((Session.remote (opened base pool)).answers (World.reaching readHost server) steps).run w).1 := by
  induction steps generalizing w w' with
  | nil => rfl
  | cons step steps ih =>
    by_cases hclose : step = .close
    · subst hclose
      rw [run_answers_close, run_answers_close]
    · obtain ⟨reply, hstep⟩ := h.exists_reply pool step
      rw [answers_cons_of_ne_close hclose, answers_cons_of_ne_close hclose, StateT.run_bind,
        StateT.run_bind, hstep, hstep]
      have hreply : (outgoing? readHost base pool step).map (fun r => server' (w'.net ++ [r])) =
          (outgoing? readHost base pool step).map fun r => server (w.net ++ [r]) :=
        Option.map_congr fun r _ => hsame [r]
      rw [hreply]
      refine congrArg (_ :: ·) (ih fun later => ?_)
      simp only [List.append_assoc, hsame]

end

/-! ### A whole run -/

namespace Run

/-- How a run over offsets goes with a server, from what was sent before it
to what was sent after it: it posts the batch of one offset after another
until it hears of a failure, and posts nothing twice. It may also stop
before it posts a batch, if that can't be made up or printed. -/
inductive Posts (object : String) (post : Nat → Outgoing)
    (told : List Outgoing → Except SessionError Unit) :
    List Nat → List Outgoing → Except RunError Unit → List Outgoing → Prop
  | done {sent : List Outgoing} : Posts object post told [] sent (.ok ()) sent
  | notMade {offset : Nat} {offsets : List Nat} {sent : List Outgoing} (cause : KeyError) :
      Posts object post told (offset :: offsets) sent (.error (.generate offset cause)) sent
  | notPrinted {offset : Nat} {offsets : List Nat} {sent : List Outgoing} (cause : OutputError) :
      Posts object post told (offset :: offsets) sent (.error (.output cause)) sent
  | failed {offset : Nat} {offsets : List Nat} {sent : List Outgoing} {e : SessionError}
      (heard : told (sent ++ [post offset]) = .error e) :
      Posts object post told (offset :: offsets) sent (.error (.writeFailure offset object e))
        (sent ++ [post offset])
  | next {offset : Nat} {offsets : List Nat} {sent sent' : List Outgoing} {r : Except RunError Unit}
      (heard : told (sent ++ [post offset]) = .ok ())
      (rest : Posts object post told offsets (sent ++ [post offset]) r sent') :
      Posts object post told (offset :: offsets) sent r sent'

/-- What is posted are the batches of the first offsets, each of them
once. -/
theorem Posts.exists_take {object : String} {post : Nat → Outgoing}
    {told : List Outgoing → Except SessionError Unit} {offsets : List Nat} {sent sent' : List Outgoing}
    {r : Except RunError Unit} (h : Posts object post told offsets sent r sent') :
    ∃ k ≤ offsets.length, sent' = sent ++ (offsets.take k).map post := by
  induction h with
  | done => exact ⟨0, Nat.le_refl 0, (List.append_nil _).symm⟩
  | notMade cause => exact ⟨0, Nat.zero_le _, (List.append_nil _).symm⟩
  | notPrinted cause => exact ⟨0, Nat.zero_le _, (List.append_nil _).symm⟩
  | failed heard => exact ⟨1, by simp, rfl⟩
  | next heard rest ih =>
    obtain ⟨k, hk, hsent⟩ := ih
    refine ⟨k + 1, Nat.succ_le_succ hk, ?_⟩
    rw [hsent, List.take_succ_cons, List.map_cons, List.append_assoc]
    rfl

end Run

section

variable {readHost : HostReader} {base pool object : String} {u : Url} {ρ : Type}

/-- The request that writes the batch at an offset of a run. It can be told
beforehand, from the settings. -/
def postBatch (u : Url) (settings : Settings) (offset : Nat) : Outgoing :=
  ⟨"POST", u, some "application/json",
    Batch.encode ⟨Pair.stretch settings.valueSize offset settings.batchSize⟩⟩

/-- What a session tells of a write of the map of an object, from all that
was sent. -/
def toldOfWrite (base pool object : String) (u : Url) (server : Responder) (sent : List Outgoing) :
    Except SessionError Unit :=
  (reported (trimSlashes base ++ Api.mapPath pool object) u (server sent)).map fun _ => ()

/-- The operations of a session with a server, as a run uses them. -/
abbrev RemoteSession.operations (readHost : HostReader) (base pool : String) (server : Responder) :
    StorageSession (StateM (World (List Outgoing))) WriteOp :=
  (Session.remote (opened base pool)).storage (World.reaching readHost server)

/-- A write that the session prepared is posted once. The bytes are sent as
they were prepared. -/
theorem run_operate_reaching (server : Responder)
    (h : Url.parse readHost (trimSlashes base ++ Api.mapPath pool object) = .ok u) (bytes : List UInt8)
    (w : World (List Outgoing)) :
    ((operations readHost base pool server).operate object (.body bytes)).run w =
      (toldOfWrite base pool object u server (w.net ++ [⟨"POST", u, some "application/json", bytes⟩]),
        w.sending ⟨"POST", u, some "application/json", bytes⟩) := by
  show ((opened base pool).submit (World.reaching readHost server).net "POST" (Api.mapPath pool object)
    (some "application/json") bytes).run w = _
  rw [submit, StateT.run_bind, run_sendOpen_reaching server h]
  rfl

namespace Run

/-- To print a batch reaches no network. Lines go to the surroundings of the
run. -/
theorem fst_of_printed (server : Responder) (around : Surroundings ρ) {settings : Settings}
    {batch : Batch} {result : Except OutputError Unit} {s s' : World (List Outgoing) × ρ}
    (printed : printBatch (around.testbed (operations readHost base pool server)) settings batch s =
      (result, s')) : s'.1 = s.1 := by
  have hline (line : String) (s : World (List Outgoing) × ρ) : Prod.fst
      (((around.testbed (operations readHost base pool server)).printLine line).run s).2 =
        Prod.fst s := rfl
  have hkept := view_printBatch hline settings batch s
  rwa [printed] at hkept

/-- To prepare a batch is to encode it, which reaches no network either. -/
theorem run_prepare_reaching (server : Responder) (around : Surroundings ρ) (batch : Batch)
    (s : World (List Outgoing) × ρ) :
    ((around.testbed (operations readHost base pool server)).session.prepare batch).run s =
      (.ok (.body batch.encode), s) :=
  rfl

/-- A batch of a run that was prepared is posted, and the session tells what
it hears of that. -/
theorem posted_of_operated (server : Responder)
    (h : Url.parse readHost (trimSlashes base ++ Api.mapPath pool object) = .ok u)
    (around : Surroundings ρ) {settings : Settings} {offset : Nat} {batch : Batch}
    (made : Batch.generate settings.batchSize offset settings.valueSize = .ok batch)
    {result : Except SessionError Unit} {s s' : World (List Outgoing) × ρ}
    (operated : ((around.testbed (operations readHost base pool server)).session.operate object
      (.body batch.encode)).run s = (result, s')) :
    result = toldOfWrite base pool object u server (s.1.net ++ [postBatch u settings offset]) ∧
      s'.1 = s.1.sending (postBatch u settings offset) := by
  have hrun : ((around.testbed (operations readHost base pool server)).session.operate object
      (.body batch.encode)).run s =
        ((((operations readHost base pool server).operate object (.body batch.encode)).run s.1).1,
          (((operations readHost base pool server).operate object (.body batch.encode)).run s.1).2,
            s.2) := rfl
  rw [hrun, run_operate_reaching server h, eq_of_generate made] at operated
  cases operated
  exact ⟨rfl, rfl⟩

/-- The write of a batch posts it, unless it doesn't get that far. There are
five ways in which it can go, and two of them end before anything is sent. -/
theorem posts_of_batchRun (server : Responder)
    (h : Url.parse readHost (trimSlashes base ++ Api.mapPath pool object) = .ok u)
    (around : Surroundings ρ) {settings : Settings} {offset : Nat} {s s' : World (List Outgoing) × ρ}
    {r : Except RunError Unit}
    (hrun : BatchRun (around.testbed (operations readHost base pool server)) Prod.fst settings object
      offset s r s') :
    ((∃ cause, r = .error (.generate offset cause)) ∨ ∃ cause, r = .error (.output cause)) ∧
        s'.1 = s.1 ∨
      r = (toldOfWrite base pool object u server (s.1.net ++ [postBatch u settings offset])).mapError
          (.writeFailure offset object) ∧
        s'.1 = s.1.sending (postBatch u settings offset) := by
  cases hrun with
  | generateFailed made same => exact .inl ⟨.inl ⟨_, rfl⟩, same⟩
  | outputFailed made before printed =>
    exact .inl ⟨.inr ⟨_, rfl⟩, (fst_of_printed server around printed).trans before⟩
  | prepareFailed made before printed between prepared same =>
    rw [run_prepare_reaching] at prepared
    cases prepared
  | operateFailed made before printed between prepared operated same =>
    rw [run_prepare_reaching] at prepared
    cases prepared
    obtain ⟨htold, hsent⟩ := posted_of_operated server h around made operated
    rw [between, fst_of_printed server around printed, before] at htold hsent
    rw [← htold]
    exact .inr ⟨rfl, same.trans hsent⟩
  | written made before printed between prepared operated same =>
    rw [run_prepare_reaching] at prepared
    cases prepared
    obtain ⟨htold, hsent⟩ := posted_of_operated server h around made operated
    rw [between, fst_of_printed server around printed, before] at htold hsent
    rw [← htold]
    exact .inr ⟨rfl, same.trans hsent⟩

/-- A run over offsets posts one batch after another. The induction is on
the offsets, and a failure ends it. -/
theorem posts_of_loopRun (server : Responder)
    (h : Url.parse readHost (trimSlashes base ++ Api.mapPath pool object) = .ok u)
    (around : Surroundings ρ) {settings : Settings} {offsets : List Nat}
    {s s' : World (List Outgoing) × ρ} {r : Except RunError Unit} {n : Nat}
    (hrun : LoopRun (around.testbed (operations readHost base pool server)) Prod.fst settings object
      offsets s r s' n) :
    s'.1.disk = s.1.disk ∧
      Posts object (postBatch u settings) (toldOfWrite base pool object u server) offsets s.1.net r
        s'.1.net := by
  -- The requests so far are those of the batches before.
  induction hrun with
  | done => exact ⟨rfl, .done⟩
  | failed batch =>
    obtain ⟨hearly, hsame⟩ | ⟨hfailed, hsent⟩ := posts_of_batchRun server h around batch
    · rw [hsame]
      obtain ⟨cause, hcause⟩ | ⟨cause, hcause⟩ := hearly
      · cases hcause
        exact ⟨rfl, .notMade cause⟩
      · cases hcause
        exact ⟨rfl, .notPrinted cause⟩
    · rw [hsent]
      cases htold : toldOfWrite base pool object u server (_ ++ [postBatch u settings _]) with
      | ok _ =>
        rw [htold] at hfailed
        cases hfailed
      | error e =>
        rw [htold] at hfailed
        cases hfailed
        exact ⟨rfl, .failed htold⟩
  | next batch rest ih =>
    obtain ⟨hearly, hsame⟩ | ⟨hwritten, hsent⟩ := posts_of_batchRun server h around batch
    · obtain ⟨cause, hcause⟩ | ⟨cause, hcause⟩ := hearly <;> cases hcause
    · rw [hsent] at ih
      cases htold : toldOfWrite base pool object u server (_ ++ [postBatch u settings _]) with
      | ok _ => exact ⟨ih.1, .next htold ih.2⟩
      | error e =>
        rw [htold] at hwritten
        cases hwritten

end Run

end

/-! ### The whole of it -/

/-- A session with a server asks once for each of its calls, never again, and
tells what it hears. -/
structure RemoteSession.AsksOnce (readHost : HostReader) (base pool : String) (server : Responder) :
    Prop where
  /-- To connect is to ask for the pool, and only the status 200 opens it. -/
  connect : ∃ u, Url.parse readHost (trimSlashes base ++ Api.poolPath pool) = .ok u ∧ ∀ w,
    (Session.connect (World.reaching readHost server) (.remote base) pool).run w =
      (openReported base pool u (server (w.net ++ [⟨"GET", u, none, []⟩])),
        w.sending ⟨"GET", u, none, []⟩)
  /-- A call that needs the server sends one request, which depends on the
  call alone, and its reply is what the server says to that. -/
  asks : ∀ step route body, step.request? pool = some (route, body) →
    ∃ u, Url.parse readHost (trimSlashes base ++ route.path) = .ok u ∧ ∀ w,
      ((Session.remote (opened base pool)).answer (World.reaching readHost server) step).run w =
        (step.replyTo (reported (trimSlashes base ++ route.path) u
            (server (w.net ++ [⟨route.method, u, route.contentType, body⟩]))),
          w.sending ⟨route.method, u, route.contentType, body⟩)
  /-- Any other call, such as to prepare a write, sends nothing. -/
  silent : ∀ step : SessionStep, step.request? pool = none →
    (Session.remote (opened base pool)).answer (World.reaching readHost server) step = pure (unasked step)
  /-- A closed session sends nothing either. -/
  closed : ∀ s : RemoteSession, s.isOpen = false → ∀ steps,
    (Session.remote s).answers (World.reaching readHost server) steps =
      pure (steps.map (.whenClosed (Session.remote s).owns))
  /-- What is sent in the course of many calls is what they ask for, one
  after another, whatever the server says to it. -/
  sends : ∀ steps w,
    (((Session.remote (opened base pool)).answers (World.reaching readHost server) steps).run w).2 =
      { w with net := w.net ++ requests readHost base pool steps }
  /-- After a call that failed, a session goes on as if that call had not
  been made, with a server that goes on to answer in the same way. -/
  unharmed : ∀ step w w' e,
    ((Session.remote (opened base pool)).answer (World.reaching readHost server) step).run w =
        (.failed e, w') →
      ∀ server' : Responder, (∀ later, server (w'.net ++ later) = server' (w.net ++ later)) → ∀ steps,
        ((((Session.remote (opened base pool)).after step).answers (World.reaching readHost server) steps).run
            w').1 =
          (((Session.remote (opened base pool)).answers (World.reaching readHost server') steps).run w).1
  /-- A run posts its batches one after another, each of them once, and ends
  at the first failure that it is told of. -/
  runs : ∀ object, ∃ u, Url.parse readHost (trimSlashes base ++ Api.mapPath pool object) = .ok u ∧
    ∀ {ρ : Type} (around : Run.Surroundings ρ) settings p w x, ∃ r p' w' x' k,
      ((Run.perform (around.testbed (operations readHost base pool server)) settings object).run p).run
          (w, x) = ((r, p'), (w', x')) ∧ w'.disk = w.disk ∧
        Run.Posts object (postBatch u settings) (toldOfWrite base pool object u server)
          settings.offsets.toList w.net (r.map fun _ => ()) w'.net ∧
        k ≤ settings.plannedBatches ∧
        w'.net = w.net ++ (settings.offsets.toList.take k).map (postBatch u settings)

/-- A session with any server whose address is one asks once for each of its
calls, whatever the server does. -/
theorem asksOnce_opened {readHost : HostReader} {base : String} (h : IsBaseUrl readHost base)
    (pool : String) (server : Responder) :
    RemoteSession.AsksOnce readHost base pool server where
  connect := by
    obtain ⟨u, hparse⟩ := h.exists_parse (Api.toList_poolPath pool)
    exact ⟨u, hparse, run_connect_reaching server hparse⟩
  asks step route body hstep := by
    obtain ⟨u, hparse⟩ := h.exists_parse route.toList_path
    exact ⟨u, hparse, run_answer_reaching server hstep hparse⟩
  silent step hstep := answer_of_unasked hstep
  closed s hclosed steps := Session.answers_of_closed (s := .remote s) (fun _ => rfl) hclosed steps
  sends := h.snd_run_answers pool server
  unharmed step w w' e hfailed server' hsame steps := by
    -- To close is no call that fails, so the session is still open.
    have hopen : (Session.remote (opened base pool)).after step = .remote (opened base pool) := by
      cases step with
      | close => cases hfailed
      | _ => rfl
    rw [hopen]
    exact h.answers_congr pool steps hsame
  runs object := by
    obtain ⟨u, hparse⟩ := h.exists_parse (Api.toList_mapPath pool object)
    refine ⟨u, hparse, fun around settings p w x => ?_⟩
    obtain ⟨r, p', ⟨w', x'⟩, s₁, s₂, n, hrun, hbegan, hloop, hended, -⟩ := Run.loopRun_perform
      settings object (Run.quiet_testbed around (operations readHost base pool server)) p (w, x)
    obtain ⟨hdisk, hposts⟩ := Run.posts_of_loopRun server hparse around hloop
    rw [← hended, hbegan] at hdisk hposts
    obtain ⟨k, hk, hsent⟩ := hposts.exists_take
    rw [settings.toList_offsets, List.length_map, List.length_range] at hk
    exact ⟨r, p', w', x', k, hrun, hdisk, hposts, hk, hsent⟩

/-- A server that carries out the first request, and hears no other one. The
session still asks it once for each call. -/
theorem asksOnce_opened_onlyOnce :
    IsBaseUrl asciiHost "http://localhost:3000/" ∧
      RemoteSession.AsksOnce asciiHost "http://localhost:3000/" "rbd" fun asked =>
        if asked.length = 1 then .ok ⟨200, none, []⟩ else .error "connection reset" :=
  ⟨by decide, asksOnce_opened (by decide) "rbd" _⟩

end MapBench
