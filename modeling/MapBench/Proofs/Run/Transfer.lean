import MapBench.Proofs.Run.Loop

/-!
# `MapBench.Proofs.Run.Transfer`: a run seen in smaller surroundings

A program's run happens in surroundings that hold much more than its
session works on. What its session does may depend on a part of them
alone; then the run is one in that part, too.

* `Within`: a session and its output, seen in a part of their surroundings.
* `Within.setup`, `Within.batchRun`, `Within.loopRun`: so are the setup, the
  write of a batch, and a run over offsets.
-/

set_option autoImplicit false

namespace MapBench.Run

variable {σ σ' τ τ' ω ω' : Type} {bed : Testbed (StateM σ) ω} {bed' : Testbed (StateM σ') ω'}
  {part : σ → σ'} {wrap : ω' → ω}

/-- What a session and its output do in a part of their surroundings is what
they do there by themselves. Their writes are the wrapped ones. -/
structure Within (bed : Testbed (StateM σ) ω) (bed' : Testbed (StateM σ') ω') (part : σ → σ')
    (wrap : ω' → ω) : Prop where
  removed : ∀ object s, (bed'.session.removeObject object).run (part s) =
    (((bed.session.removeObject object).run s).1, part ((bed.session.removeObject object).run s).2)
  wrote : ∀ object data s, (bed'.session.writeObject object data).run (part s) =
    (((bed.session.writeObject object data).run s).1,
      part ((bed.session.writeObject object data).run s).2)
  prepared : ∀ batch s, ((bed.session.prepare batch).run s).1 =
      (((bed'.session.prepare batch).run (part s)).1).map wrap ∧
    ((bed'.session.prepare batch).run (part s)).2 = part ((bed.session.prepare batch).run s).2
  operated : ∀ object op s, (bed'.session.operate object op).run (part s) =
    (((bed.session.operate object (wrap op)).run s).1,
      part ((bed.session.operate object (wrap op)).run s).2)
  printed : ∀ line s, (bed'.printLine line).run (part s) =
    (((bed.printLine line).run s).1, part ((bed.printLine line).run s).2)

namespace Within

variable (h : Within bed bed' part wrap)

include h

/-- The setup in the large surroundings is the one in the small ones. It
only calls the session. -/
theorem setup (object : String) (s : σ) : (Run.setup bed'.session object).run (part s) =
    (((Run.setup bed.session object).run s).1, part ((Run.setup bed.session object).run s).2) := by
  rw [Run.setup, Run.setup, StateT.run_bind, StateT.run_bind, h.removed]
  rcases (bed.session.removeObject object).run s with ⟨e | _, s₁⟩
  · rfl
  · change (bed'.session.writeObject object setupPayload >>= _).run (part s₁) = _
    rw [StateT.run_bind, h.wrote]
    change _ = (((bed.session.writeObject object setupPayload >>= _).run s₁).1,
      part ((bed.session.writeObject object setupPayload >>= _).run s₁).2)
    rw [StateT.run_bind]
    rcases (bed.session.writeObject object setupPayload).run s₁ with ⟨e | _, s₂⟩ <;> rfl

/-- So are the lines that are printed, up to the first that can't be. -/
theorem printLines (lines : List String) (s : σ) : Run.printLines bed' lines (part s) =
    ((Run.printLines bed lines s).1, part (Run.printLines bed lines s).2) := by
  induction lines generalizing s with
  | nil => rfl
  | cons line lines ih =>
    rw [Run.printLines, Run.printLines, h.printed]
    rcases (bed.printLine line).run s with ⟨e | _, s₁⟩
    · rfl
    · exact ih s₁

/-- The lines of a batch are printed in both, or in neither. -/
theorem printBatch {settings : Settings} {batch : Batch} {s s' : σ} {r : Except OutputError Unit}
    (hprint : Run.printBatch bed settings batch s = (r, s')) :
    Run.printBatch bed' settings batch (part s) = (r, part s') := by
  rw [Run.printBatch] at hprint ⊢
  split at hprint
  next hdebug => rw [if_pos hdebug, h.printLines, hprint]
  next hdebug =>
    cases hprint
    rw [if_neg hdebug]

/-- A write that was prepared was prepared in the small surroundings, too,
though it may be told in other words there. -/
theorem prepared_ok {batch : Batch} {op : ω} {s s' : σ}
    (hprepare : (bed.session.prepare batch).run s = (.ok op, s')) :
    ∃ op', (bed'.session.prepare batch).run (part s) = (.ok op', part s') ∧ wrap op' = op := by
  obtain ⟨hresult, hpart⟩ := h.prepared batch s
  rw [hprepare] at hresult hpart
  rcases hrun : (bed'.session.prepare batch).run (part s) with ⟨e | op', s₁⟩ <;>
    rw [hrun] at hresult hpart
  · cases hresult
  · cases hresult
    exact ⟨op', by rw [← hpart], rfl⟩

/-- A write that couldn't be prepared couldn't be there, either. -/
theorem prepared_error {batch : Batch} {e : SessionError} {s s' : σ}
    (hprepare : (bed.session.prepare batch).run s = (.error e, s')) :
    (bed'.session.prepare batch).run (part s) = (.error e, part s') := by
  obtain ⟨hresult, hpart⟩ := h.prepared batch s
  rw [hprepare] at hresult hpart
  rcases hrun : (bed'.session.prepare batch).run (part s) with ⟨e' | op', s₁⟩ <;>
    rw [hrun] at hresult hpart
  · cases hresult
    rw [← hpart]
  · cases hresult

variable {view : σ → τ} {view' : σ' → τ'} {settings : Settings} {object : String}
  (hview : ∀ s s', view s = view s' → view' (part s) = view' (part s'))

include hview

/-- The write of a batch goes the same way in both, step by step. There is
one case for each of its five ends. -/
theorem batchRun {offset : Nat} {s s' : σ} {r : Except RunError Unit}
    (hrun : BatchRun bed view settings object offset s r s') :
    BatchRun bed' view' settings object offset (part s) r (part s') := by
  cases hrun with
  | generateFailed made same => exact .generateFailed made (hview _ _ same)
  | outputFailed made before printed =>
    exact .outputFailed made (hview _ _ before) (h.printBatch printed)
  | prepareFailed made before printed between prepared same =>
    exact .prepareFailed made (hview _ _ before) (h.printBatch printed) (hview _ _ between)
      (h.prepared_error prepared) (hview _ _ same)
  | @operateFailed _ _ _ _ _ _ s₄ _ _ made before printed between prepared operated same =>
    obtain ⟨op', hprepared, rfl⟩ := h.prepared_ok prepared
    have hoperated := h.operated object op' s₄
    rw [operated] at hoperated
    exact .operateFailed made (hview _ _ before) (h.printBatch printed) (hview _ _ between) hprepared
      hoperated (hview _ _ same)
  | @written _ _ _ _ _ s₄ _ _ made before printed between prepared operated same =>
    obtain ⟨op', hprepared, rfl⟩ := h.prepared_ok prepared
    have hoperated := h.operated object op' s₄
    rw [operated] at hoperated
    exact .written made (hview _ _ before) (h.printBatch printed) (hview _ _ between) hprepared
      hoperated (hview _ _ same)

/-- And so does a run over offsets, batch by batch. -/
theorem loopRun {offsets : List Nat} {s s' : σ} {r : Except RunError Unit} {n : Nat}
    (hrun : LoopRun bed view settings object offsets s r s' n) :
    LoopRun bed' view' settings object offsets (part s) r (part s') n := by
  induction hrun with
  | done => exact .done
  | failed batch => exact .failed (h.batchRun hview batch)
  | next batch _ ih => exact .next (h.batchRun hview batch) ih

end Within

end MapBench.Run
