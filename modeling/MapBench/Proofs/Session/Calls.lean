import MapBench.Session.Local
import MapBench.Session.Remote

/-!
# `MapBench.Proofs.Session.Calls`: a session and its calls

Sessions of different kinds can be compared call by call: how a call
ended, what it counted, and what the store held afterwards.

* `Ending`: how a call ended.
* `SessionCall`: a call. A write is applied under the number that it
  got when it was prepared, which may be long before.
* `SessionCall.perform`, `trace`: what a call does, and what can be
  seen of many calls.
-/

set_option autoImplicit false

namespace MapBench

/-- How a call ended. Sessions of different kinds have different errors;
only a closed session is the same for all of them. -/
inductive Ending (α : Type)
  | done (result : α)
  | failed
  | closed
  deriving Repr, DecidableEq

namespace Ending

variable {α β : Type}

/-- How a call of a session ended. Which failure it was isn't told, since
the two kinds of sessions have different ones. -/
def of : Except SessionError α → Ending α
  | .ok result => done result
  | .error .closed => closed
  | .error _ => failed

/-- How an operation of a store ended. A store is never closed under an
operation. -/
def ofStore : Except StoreError α → Ending α
  | .ok result => done result
  | .error _ => failed

/-- Tell the result in another way. -/
def map (f : α → β) : Ending α → Ending β
  | done result => done (f result)
  | failed => failed
  | closed => closed

/-- An operation of a store in a session ends as it does by itself. -/
theorem of_mapError_store (result : Except StoreError α) :
    of (result.mapError .store) = ofStore result := by
  cases result <;> rfl

end Ending

namespace StorageSession

variable {m : Type → Type} [Monad m] [LawfulMonad m] {ω : Type} {s : StorageSession m ω}
  {batch : Batch}

/-- To write a batch is to apply a write that can be prepared. -/
theorem writeBatch_of_prepare {op : ω} (h : s.prepare batch = pure (.ok op)) (object : String) :
    s.writeBatch object batch = s.operate object op := by
  rw [writeBatch, h, pure_bind]

/-- A write that can't be prepared isn't applied. -/
theorem writeBatch_of_prepare_error {e : SessionError} (h : s.prepare batch = pure (.error e))
    (object : String) : s.writeBatch object batch = pure (.error e) := by
  rw [writeBatch, h, pure_bind]

end StorageSession

/-- A call of a session. It is told without anything that only one kind of
session has, so that both can be called so. -/
inductive SessionCall
  | removeObject (object : String)
  | writeObject (object : String) (data : List UInt8)
  /-- Prepare the write of a batch. It gets the next number. -/
  | prepare (batch : Batch)
  /-- Apply the write of a number. -/
  | operate (object : String) (number : Nat)
  | writeBatch (object : String) (batch : Batch)
  | mapSize (object : String)
  | close
  deriving Repr, DecidableEq

/-- The name that a call gives, if any. Only this is put into an address. -/
def SessionCall.object? : SessionCall → Option String
  | removeObject object | writeObject object _ | operate object _ | writeBatch object _
  | mapSize object => some object
  | prepare _ | close => none

/-- A kind of session: its operations, and how it is closed. What it works
on and what it prepares are its own matter. -/
structure SessionKind (σ s ω : Type) where
  storage : s → StorageSession (StateM σ) ω
  close : s → s

/-- Sessions with a store file. They prepare a batch by keeping it. -/
def LocalSession.kind : SessionKind Disk LocalSession Batch :=
  ⟨LocalSession.storage, LocalSession.close⟩

/-- Sessions with a server. They prepare a batch by writing it down as the
body of a request. -/
def RemoteSession.kind {σ : Type} (net : Network (StateM σ)) :
    SessionKind σ RemoteSession (List UInt8) :=
  ⟨fun s => s.storage net, RemoteSession.close⟩

/-- A session with the writes that it has prepared, and what it works
on. -/
structure SessionUse (σ s ω : Type) where
  session : s
  prepared : List ω
  place : σ

namespace SessionUse

variable {σ s ω α : Type}

/-- A session that has prepared nothing yet. -/
def start (session : s) (place : σ) : SessionUse σ s ω :=
  ⟨session, [], place⟩

/-- An operation of the session, and what is told of its result. -/
def act (u : SessionUse σ s ω) (op : StateM σ (Except SessionError α)) (tell : α → Option Nat) :
    Ending (Option Nat) × SessionUse σ s ω :=
  ((Ending.of (op.run u.place).1).map tell, { u with place := (op.run u.place).2 })

/-- Prepare a write, and keep it if that succeeds. Writes are numbered in
the order in which they were prepared. -/
def keep (u : SessionUse σ s ω) (op : StateM σ (Except SessionError ω)) :
    Ending (Option Nat) × SessionUse σ s ω :=
  ((Ending.of (op.run u.place).1).map fun _ => none,
    { u with prepared := u.prepared ++ (op.run u.place).1.toOption.toList, place := (op.run u.place).2 })

end SessionUse

variable {σ s ω : Type}

/-- What a call does. There is nothing to apply under a number that no
write has got. -/
def SessionCall.perform (kind : SessionKind σ s ω) (u : SessionUse σ s ω) :
    SessionCall → Ending (Option Nat) × SessionUse σ s ω
  | removeObject object => u.act ((kind.storage u.session).removeObject object) fun _ => none
  | writeObject object data =>
    u.act ((kind.storage u.session).writeObject object data) fun _ => none
  | prepare batch => u.keep ((kind.storage u.session).prepare batch)
  | operate object number =>
    match u.prepared[number]? with
    | some op => u.act ((kind.storage u.session).operate object op) fun _ => none
    | none => (.failed, u)
  | writeBatch object batch =>
    u.act ((kind.storage u.session).writeBatch object batch) fun _ => none
  | mapSize object => u.act ((kind.storage u.session).mapSize object) some
  | close => (.done none, { u with session := kind.close u.session })

/-- How each of many calls ended, and what the store held after it. The
store is looked at from outside, so it is there after the session is
closed, too. -/
def SessionUse.trace (kind : SessionKind σ s ω) (look : σ → Option Tables) :
    SessionUse σ s ω → List SessionCall → List (Ending (Option Nat) × Option Tables)
  | _, [] => []
  | u, call :: calls =>
    let (ending, u') := call.perform kind u
    (ending, look u'.place) :: trace kind look u' calls

end MapBench
