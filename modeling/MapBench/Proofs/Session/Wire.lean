import MapBench.Proofs.Api.Handle
import MapBench.Proofs.Batch.Wire
import MapBench.Proofs.Session.Remote

/-!
# `MapBench.Proofs.Session.Wire`: nothing is lost between a session and a server

A batch is turned into bytes where a session prepares a write, and back
into a batch where a server reads the body of a request, in another
program. A count goes the other way.

* `Batch.encode_injective`: different batches have different encodings.
* `Api.Request.asks_iff_of_matches_writeEntries`: what is written is the
  batch in the body.
* `LosesNothing`: every batch and every count arrives as it was sent.
* `RemoteSession.losesNothing`: this is so for every open session.
-/

set_option autoImplicit false

namespace MapBench

/-- Different batches have different encodings. So a server can't take one
batch for another. -/
theorem Batch.encode_injective : Function.Injective Batch.encode := by
  intro a b h
  have hdecoded : decode? a.encode = decode? b.encode := congrArg decode? h
  rw [decode?_encode, decode?_encode] at hdecoded
  exact Option.some.inj hdecoded

namespace Api

variable {id : ObjectId}

/-- A request for a write asks to write the batch in its body, and
nothing else. -/
theorem Request.asks_iff_of_matches_writeEntries {r : Request} (h : r.Matches (.writeEntries id))
    {action : Action} :
    r.Asks action ↔ ∃ batch, Batch.decode? r.body = some batch ∧ action = .writeEntries id batch := by
  rw [asks_iff, action_eq, matches_iff.mp h]
  show Route.action r.body (.writeEntries id) = .ok action ↔ _
  rw [Route.action]
  cases Batch.decode? r.body with
  | none => simp
  | some batch => simp [eq_comm]

/-- A request whose body is the encoding of a batch asks for this
batch. -/
theorem Request.asks_iff_of_body {r : Request} (h : r.Matches (.writeEntries id)) {batch : Batch}
    (hbody : r.body = batch.encode) {action : Action} :
    r.Asks action ↔ action = .writeEntries id batch := by
  rw [asks_iff_of_matches_writeEntries h, hbody, batch.decode?_encode]
  simp

/-- The route of a request doesn't depend on its body, so any batch can be
put into it. -/
theorem Request.matches_withBody {r : Request} {route : Route} (body : List UInt8)
    (h : r.Matches route) : { r with body }.Matches route :=
  h

/-- A request that asks for the write of a batch matches the route of
the write. -/
theorem Request.matches_of_asks_writeEntries {r : Request} {batch : Batch}
    (h : r.Asks (.writeEntries id batch)) : r.Matches (.writeEntries id) := by
  obtain ⟨route, hmatches, haction⟩ := h
  cases route with
  | writeEntries id' =>
    obtain ⟨batch', -, heq⟩ :=
      (asks_iff_of_matches_writeEntries hmatches).mp ⟨_, hmatches, haction⟩
    obtain ⟨rfl, rfl⟩ := Action.writeEntries.inj heq
    exact hmatches
  | _ => cases haction

end Api

/-- What a session prepares, a server reads as the same batch, and what
a server counts, a session reads as the same count. -/
structure LosesNothing {m : Type → Type} [Monad m] (session : StorageSession m (List UInt8)) :
    Prop where
  /-- Preparing a write encodes the batch. -/
  prepared : ∀ batch, session.prepare batch = pure (.ok batch.encode)
  /-- The batch comes back, with its pairs in the same order. -/
  decoded : ∀ batch, Batch.decode? batch.encode = some batch
  /-- A server that gets the encoding is asked to write this batch, and
  nothing else. -/
  asked : ∀ (r : Api.Request) (id : ObjectId) (batch : Batch),
    r.Matches (.writeEntries id) → r.body = batch.encode →
      ∀ action, r.Asks action ↔ action = .writeEntries id batch
  /-- Different batches have different encodings. -/
  distinct : Function.Injective Batch.encode
  /-- Bytes of another writer that hold a batch may be replaced by the
  encoding of the batch, -/
  encodedAgain : ∀ (bytes : List UInt8) (batch : Batch),
    Batch.decode? bytes = some batch → Batch.decode? batch.encode = some batch
  /-- and a server is asked for the same. -/
  askedAgain : ∀ (r : Api.Request) (id : ObjectId) (batch : Batch),
    r.Asks (.writeEntries id batch) → { r with body := batch.encode }.Asks (.writeEntries id batch)
  /-- A count that is a word comes back from the answer. -/
  counted : ∀ n ≤ maxWord, Count.decode? (Api.Outcome.counted n).answer.body = some n

/-- Between an open session and a server nothing is lost, whatever the
batch holds and however the session reaches the server. -/
theorem RemoteSession.losesNothing {m : Type → Type} [Monad m] (net : Network m) {s : RemoteSession}
    (hopen : s.isOpen = true) : LosesNothing (s.storage net) where
  prepared batch := by
    show pure (if s.isOpen = true then Except.ok batch.encode else Except.error SessionError.closed) = _
    rw [if_pos hopen]
  decoded := Batch.decode?_encode
  asked r id batch hmatches hbody action := Api.Request.asks_iff_of_body hmatches hbody
  distinct := Batch.encode_injective
  encodedAgain bytes batch _ := batch.decode?_encode
  askedAgain r id batch hasks := by
    have hmatches := Api.Request.matches_of_asks_writeEntries hasks
    exact (Api.Request.asks_iff_of_body (Api.Request.matches_withBody batch.encode hmatches) rfl).mpr rfl
  counted _ hn := Count.decode?_encode hn

/-- A session that is cut off still prepares writes, and a batch with
awkward keys, one of them empty and there twice, comes back from what it
prepares. -/
theorem RemoteSession.losesNothing_awkward :
    let s := RemoteSession.opened "http://localhost:3000" "ben"
    let batch : Batch := ⟨[⟨"\"\\/\n\x00é😀", [0, 255]⟩, ⟨"", []⟩, ⟨"", [7]⟩]⟩
    s.isOpen = true ∧ LosesNothing (s.storage (Network.unreachable (m := Id) Url.asciiHost)) ∧
      Batch.decode? batch.encode = some batch := by
  intro s batch
  have hopen : s.isOpen = true := rfl
  have h := RemoteSession.losesNothing (Network.unreachable (m := Id) Url.asciiHost) hopen
  exact ⟨hopen, h, h.decoded batch⟩

end MapBench
