import MapBench.Session.Basic

/-!
# `MapBench.Proofs.Session.Lifecycle`: a session until it is closed, and after

A session takes operations until someone closes it. After that it answers
without looking at a store or at the network, and it stays closed.

* `SessionStep`, `SessionReply`: what is done with a session, and what
  comes of it. A write may have been prepared by any session.
* `Session.answer`, `Session.answers`: what comes of a step, and of many.
* `Session.answer_operate_of_not_owns`: a write of the other kind is
  refused, and that is all.
* `Session.answers_append_close`: what comes of steps among which the
  session is closed.
-/

set_option autoImplicit false

namespace MapBench

/-- What is done with a session. Closing is a step like any other, and may
come several times. -/
inductive SessionStep
  | removeObject (object : String)
  | writeObject (object : String) (data : List UInt8)
  | prepare (batch : Batch)
  /-- Apply a write, whichever session it was prepared by. -/
  | operate (object : String) (op : WriteOp)
  | writeBatch (object : String) (batch : Batch)
  | mapSize (object : String)
  | close
  deriving Repr, DecidableEq

/-- What comes of it. A failure tells why, and leaves the session as it was. -/
inductive SessionReply
  | done
  | prepared (op : WriteOp)
  | counted (count : Nat)
  | failed (e : SessionError)
  deriving Repr, DecidableEq

namespace SessionReply

/-- What comes of an operation. All failures are told in the same way. -/
def of {α : Type} (good : α → SessionReply) : Except SessionError α → SessionReply
  | .ok a => good a
  | .error e => failed e

/-- What comes of a step if the session is closed and takes these writes. A
write of the other kind is refused for that, as it would have been before. -/
def whenClosed (owns : WriteOp → Bool) : SessionStep → SessionReply
  | .operate _ op => failed (if owns op then .closed else .foreignWriteOp)
  | .close => done
  | _ => failed .closed

end SessionReply

/-! ### Operations of a closed session -/

namespace StorageSession

variable {m n : Type → Type} [Monad m] [Monad n] {ω ω' : Type}

/-- What comes of a step with a session of these operations. -/
def answer (s : StorageSession m WriteOp) : SessionStep → m SessionReply
  | .removeObject object => return .of (fun _ => .done) (← s.removeObject object)
  | .writeObject object data => return .of (fun _ => .done) (← s.writeObject object data)
  | .prepare batch => return .of .prepared (← s.prepare batch)
  | .operate object op => return .of (fun _ => .done) (← s.operate object op)
  | .writeBatch object batch => return .of (fun _ => .done) (← s.writeBatch object batch)
  | .mapSize object => return .of .counted (← s.mapSize object)
  | .close => return .done

/-- All that the operations do is to say that the session is closed. They
are pure, so no store and no network is asked. -/
structure IsClosed (s : StorageSession m ω) : Prop where
  removeObject : ∀ object, s.removeObject object = pure (.error .closed)
  writeObject : ∀ object data, s.writeObject object data = pure (.error .closed)
  prepare : ∀ batch, s.prepare batch = pure (.error .closed)
  operate : ∀ object op, s.operate object op = pure (.error .closed)
  mapSize : ∀ object, s.mapSize object = pure (.error .closed)

namespace IsClosed

variable {s : StorageSession m ω}

/-- This stays so in any surroundings in which doing nothing does nothing. -/
theorem lift (h : s.IsClosed) {into : {α : Type} → m α → n α}
    (hinto : ∀ {α : Type} (a : α), into (pure a) = pure a) :
    IsClosed (StorageSession.lift into s) where
  removeObject object := (congrArg into (h.removeObject object)).trans (hinto _)
  writeObject object data := (congrArg into (h.writeObject object data)).trans (hinto _)
  prepare batch := (congrArg into (h.prepare batch)).trans (hinto _)
  operate object op := (congrArg into (h.operate object op)).trans (hinto _)
  mapSize object := (congrArg into (h.mapSize object)).trans (hinto _)

/-- A closed session that is used for writes of several kinds still tells
its own kind from others. -/
theorem answer_widen [LawfulMonad m] (h : s.IsClosed) (wrap : ω → WriteOp)
    (own? : WriteOp → Option ω) (step : SessionStep) :
    (s.widen wrap own?).answer step = pure (.whenClosed (fun op => (own? op).isSome) step) := by
  cases step with
  | operate object op =>
    cases hown : own? op with
    | none =>
      simp [answer, widen, hown, SessionReply.of, SessionReply.whenClosed]
    | some own =>
      simp [answer, widen, hown, h.operate object own, SessionReply.of, SessionReply.whenClosed]
  | _ =>
    simp [answer, widen, writeBatch, h.removeObject, h.writeObject, h.prepare, h.mapSize, Except.map,
      SessionReply.of, SessionReply.whenClosed]

end IsClosed

end StorageSession

/-- A session with a file is closed once it has no handle. -/
theorem LocalSession.isClosed_storage (pool : String) :
    (LocalSession.storage ⟨none, pool⟩).IsClosed :=
  ⟨fun _ => rfl, fun _ _ => rfl, fun _ => rfl, fun _ _ => rfl, fun _ => rfl⟩

namespace RemoteSession

variable {m : Type → Type} [Monad m] [LawfulMonad m] {net : Network m} {s : RemoteSession}

omit [LawfulMonad m] in
/-- A closed session sends no request. -/
theorem send_of_closed (h : s.isOpen = false) (method path : String) (contentType : Option String)
    (body : List UInt8) : s.send net method path contentType body = pure (.error .closed) := by
  rw [send, h]
  rfl

/-- Nor does it submit one. -/
theorem submit_of_closed (h : s.isOpen = false) (method path : String) (contentType : Option String)
    (body : List UInt8) : s.submit net method path contentType body = pure (.error .closed) := by
  rw [submit, send_of_closed h, pure_bind]
  rfl

/-- So all its operations say that it is closed. -/
theorem isClosed_storage (h : s.isOpen = false) : (s.storage net).IsClosed where
  removeObject _ := submit_of_closed h ..
  writeObject _ _ := submit_of_closed h ..
  prepare _ := by simp [storage, h]
  operate _ _ := submit_of_closed h ..
  mapSize _ := by simp only [storage, send_of_closed h, pure_bind]

end RemoteSession

/-! ### Sessions of either kind -/

namespace Session

/-- Has nobody closed the session? A session with a file is open as long as
it has its handle. -/
def isOpen : Session → Bool
  | onDisk s => s.handle.isSome
  | remote s => s.isOpen

/-- Is the write one of the session's own kind? Whether it was prepared by
this session isn't asked. -/
def owns : Session → WriteOp → Bool
  | onDisk _, op => op.pairs?.isSome
  | remote _, op => op.body?.isSome

/-- The session after a step. Only closing changes it. -/
def after (s : Session) : SessionStep → Session
  | .close => s.close
  | _ => s

/-- Whoever is closed isn't open. -/
@[simp] theorem isOpen_close (s : Session) : s.close.isOpen = false := by
  cases s <;> rfl

/-- A session keeps its kind, also when it is closed. -/
@[simp] theorem owns_after (s : Session) (step : SessionStep) : (s.after step).owns = s.owns := by
  cases s <;> cases step <;> rfl

/-- Who is closed stays closed, whatever else is done. -/
theorem isOpen_after_of_closed {s : Session} (h : s.isOpen = false) (step : SessionStep) :
    (s.after step).isOpen = false := by
  cases step with
  | close => exact s.isOpen_close
  | _ => exact h

section

variable {m : Type → Type} [Monad m] (access : StoreAccess m)

/-- What comes of a step. It is looked at in the surroundings of a session,
which may be a disk or a network. -/
def answer (s : Session) (step : SessionStep) : m SessionReply :=
  (s.storage access).answer step

/-- What comes of steps one after another. Each is answered by the session
that the steps before it have left. -/
def answers (s : Session) : List SessionStep → m (List SessionReply)
  | [] => return []
  | step :: steps => do
    let reply ← s.answer access step
    let replies ← (s.after step).answers steps
    return reply :: replies

end

variable {m : Type → Type} [Monad m] [LawfulMonad m] {access : StoreAccess m} {s : Session}

/-- A write of the other kind is refused, and nobody is asked. It doesn't
matter whether the session is open. -/
theorem answer_operate_of_not_owns {op : WriteOp} (h : s.owns op = false) (object : String) :
    s.answer access (.operate object op) = pure (.failed .foreignWriteOp) := by
  match s, op, h with
  | .onDisk s, .body bytes, _ => exact pure_bind _ _
  | .remote s, .pairs batch, _ => exact pure_bind _ _

/-- A closed session asks nobody. Its reply is told by the step alone. -/
theorem answer_of_closed (hdisk : ∀ {α : Type} (a : α), access.onDisk (pure a) = pure a)
    (h : s.isOpen = false) (step : SessionStep) :
    s.answer access step = pure (.whenClosed s.owns step) := by
  cases s with
  | onDisk s =>
    obtain ⟨handle, pool⟩ := s
    obtain rfl : handle = none := Option.not_isSome_iff_eq_none.mp (Bool.eq_false_iff.mp h)
    exact ((LocalSession.isClosed_storage pool).lift hdisk).answer_widen _ _ step
  | remote s => exact (RemoteSession.isClosed_storage h).answer_widen _ _ step

/-- So are its replies to many steps. -/
theorem answers_of_closed (hdisk : ∀ {α : Type} (a : α), access.onDisk (pure a) = pure a)
    (h : s.isOpen = false) (steps : List SessionStep) :
    s.answers access steps = pure (steps.map (.whenClosed s.owns)) := by
  induction steps generalizing s with
  | nil => rfl
  | cons step steps ih =>
    rw [answers, answer_of_closed hdisk h, ih (isOpen_after_of_closed h step), owns_after, pure_bind,
      pure_bind, List.map_cons]

/-- From the first close on, a session asks nobody. What it replies before
that doesn't depend on what is still to come. -/
theorem answers_append_close (hdisk : ∀ {α : Type} (a : α), access.onDisk (pure a) = pure a)
    (before rest : List SessionStep) :
    s.answers access (before ++ .close :: rest) = do
      let replies ← s.answers access before
      return replies ++ .done :: rest.map (.whenClosed s.owns) := by
  induction before generalizing s with
  | nil =>
    have hrest := answers_of_closed hdisk s.isOpen_close rest
    rw [show s.close.owns = s.owns from s.owns_after .close] at hrest
    have hclose : s.answers access (.close :: rest) = do
        let replies ← s.close.answers access rest
        return .done :: replies := pure_bind _ _
    simp [hclose, hrest, answers]
  | cons step before ih =>
    rw [List.cons_append, answers, ih, owns_after]
    simp [answers]

end Session

end MapBench
