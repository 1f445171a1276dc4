import MapBench.Proofs.Run.Recording

/-!
# `MapBench.Proofs.Run.Observation`: watching a run doesn't change it

A run may print its pairs, pause between batches, show its progress and
read clocks. None of that reaches the session: as long as every line can be
printed, a run asks its session the same, and ends in the same way, as one
that nobody watches.

Of two such runs each is compared with what is left of a run when it only
makes up batches and writes them. Neither printing nor pausing occurs in
that, so there is nothing in which the two could differ.

* `Settings.SameWork`: settings with the same batches.
* `workAt`, `workFrom`: what is left of the write of a batch and of a run
  over offsets.
* `workAt_of_batchRun`, `workFrom_of_loopRun`: a run does that work.
* `perform_sameWork`: two runs with the same work ask their sessions the
  same and come to the same.
-/

set_option autoImplicit false

namespace MapBench

/-- Two settings with the same batches. They may differ in whether pairs are
printed and in the pause after a batch. -/
structure Settings.SameWork (a b : Settings) : Prop where
  operation : a.operation = b.operation
  batchSize : a.batchSize = b.batchSize
  totalPairs : a.totalPairs = b.totalPairs
  valueSize : a.valueSize = b.valueSize

/-- The offsets of a run are those of its batches, so the same work has the
same ones. -/
theorem Settings.SameWork.toList_offsets {a b : Settings} (h : a.SameWork b) :
    a.offsets.toList = b.offsets.toList := by
  rw [a.toList_offsets, b.toList_offsets, a.plannedBatches_eq, b.plannedBatches_eq, h.batchSize,
    h.totalPairs]

namespace Run

variable {δ ρ ρ' ω : Type}

/-- The same session with a record of its calls. Lines aren't in it, since
whether a run prints is what may differ. -/
def recordedSession (session : StorageSession (StateM δ) ω) :
    StorageSession (StateM (δ × List (Call ω))) ω where
  removeObject object := record (.removeObject object) (session.removeObject object)
  writeObject object data := record (.writeObject object data) (session.writeObject object data)
  prepare batch := record (.prepare batch) (session.prepare batch)
  operate object op := record (.operate object op) (session.operate object op)
  mapSize object := record (.mapSize object) (session.mapSize object)

/-- Every line can be printed. A run that can't print a line stops there,
and that is how printing could change it. -/
def Surroundings.Prints (u : Surroundings ρ) : Prop :=
  ∀ line s, ((u.printLine line).run s).1 = .ok ()

/-! ### What is left of a run -/

variable (session : StorageSession (StateM δ) ω) (object : String) (batchSize valueSize : Nat)

/-- Make up the batch at an offset and write it, and do nothing else. No
clock is read and nothing is counted. -/
def workAt (offset : Nat) (d : δ) : Except RunError Unit × δ :=
  match Batch.generate batchSize offset valueSize with
  | .error e => (.error (.generate offset e), d)
  | .ok batch =>
    match (session.prepare batch).run d with
    | (.error e, d) => (.error (.writeOpCreation offset e), d)
    | (.ok op, d) =>
      (((session.operate object op).run d).1.mapError (.writeFailure offset object),
        ((session.operate object op).run d).2)

/-- Do that at one offset after another, up to the first failure. The number
is that of the batches that were written. -/
def workFrom : List Nat → δ → Except RunError Unit × Nat × δ
  | [], d => (.ok (), 0, d)
  | offset :: offsets, d =>
    match workAt session object batchSize valueSize offset d with
    | (.error e, d) => (.error e, 0, d)
    | (.ok (), d) =>
      let (r, n, d) := workFrom offsets d
      (r, n + 1, d)

/-! ### A run does that work -/

section

variable {session object} {u : Surroundings ρ} {settings : Settings}

/-- Where every line can be printed, printing leaves the session alone and
doesn't fail. -/
theorem printBatch_of_prints (hu : u.Prints) {batch : Batch} {s s' : δ × ρ}
    {r : Except OutputError Unit}
    (h : printBatch (u.testbed session) settings batch s = (r, s')) : r = .ok () ∧ s'.1 = s.1 := by
  have hlines (lines : List String) (s : δ × ρ) :
      (printLines (u.testbed session) lines s).1 = .ok () := by
    induction lines generalizing s with
    | nil => rfl
    | cons line lines ih =>
      have hline : (((u.testbed session).printLine line).run s).1 = .ok () := hu line s.2
      rw [printLines]
      rcases hrun : ((u.testbed session).printLine line).run s with ⟨e | _, s₁⟩
      · rw [hrun] at hline
        cases hline
      · exact ih s₁
  have hview : (printBatch (u.testbed session) settings batch s).2.1 = s.1 :=
    view_printBatch (fun _ _ => rfl) settings batch s
  have hresult : (printBatch (u.testbed session) settings batch s).1 = .ok () := by
    rw [printBatch]
    split
    · exact hlines _ s
    · rfl
  rw [h] at hview hresult
  exact ⟨hresult, hview⟩

/-- The session of a testbed does what it does by itself. -/
theorem run_onFirst {α : Type} {act : StateM δ α} {a : α} {s s' : δ × ρ}
    (h : (onFirst act : StateM (δ × ρ) α).run s = (a, s')) : act.run s.1 = (a, s'.1) := by
  cases h
  rfl

/-- In whichever way the write of a batch goes, the session and the result
are those of the mere work. -/
theorem workAt_of_batchRun (hu : u.Prints) {offset : Nat} {s s' : δ × ρ} {r : Except RunError Unit}
    (h : BatchRun (u.testbed session) Prod.fst settings object offset s r s') :
    workAt session object settings.batchSize settings.valueSize offset s.1 = (r, s'.1) := by
  -- The session is asked in the state in which the batch found it.
  have hasked {batch : Batch} {r : Except SessionError ω} {s₁ s₂ s₃ s₄ : δ × ρ}
      {printed? : Except OutputError Unit} (before : s₁.1 = s.1)
      (printed : printBatch (u.testbed session) settings batch s₁ = (printed?, s₂))
      (between : s₃.1 = s₂.1) (prepared : ((u.testbed session).session.prepare batch).run s₃ = (r, s₄)) :
      (session.prepare batch).run s.1 = (r, s₄.1) := by
    have hprepared := run_onFirst prepared
    rwa [between, (printBatch_of_prints hu printed).2, before] at hprepared
  cases h with
  | generateFailed made same => rw [workAt, made, same]
  | outputFailed made before printed => cases (printBatch_of_prints hu printed).1
  | prepareFailed made before printed between prepared same =>
    rw [workAt, made]
    simp only [hasked before printed between prepared, same]
  | operateFailed made before printed between prepared operated same =>
    rw [workAt, made]
    simp only [hasked before printed between prepared, run_onFirst operated, same]
    rfl
  | written made before printed between prepared operated same =>
    rw [workAt, made]
    simp only [hasked before printed between prepared, run_onFirst operated, same]
    rfl

/-- So they are in whichever way a run over offsets goes, and so is the
number of batches. -/
theorem workFrom_of_loopRun (hu : u.Prints) {offsets : List Nat} {s s' : δ × ρ}
    {r : Except RunError Unit} {n : Nat}
    (h : LoopRun (u.testbed session) Prod.fst settings object offsets s r s' n) :
    workFrom session object settings.batchSize settings.valueSize offsets s.1 = (r, n, s'.1) := by
  induction h with
  | done => rfl
  | failed batch => rw [workFrom, workAt_of_batchRun hu batch]
  | next batch rest ih =>
    rw [workFrom, workAt_of_batchRun hu batch]
    simp only [ih]

end

/-- A whole run comes to what its work comes to, and counts its batches. The
surroundings don't occur in the work, so two runs can be compared by it. -/
theorem workFrom_perform {u : Surroundings ρ} (hu : u.Prints) (settings : Settings)
    (p : Performance) (s : δ × ρ) :
    ∃ result perf s' n, ((perform (u.testbed session) settings object).run p).run s =
        ((result, perf), s')
      ∧ workFrom session object settings.batchSize settings.valueSize settings.offsets.toList s.1 =
        (result.map fun _ => (), n, s'.1)
      ∧ tally perf = tallyOf settings p n := by
  obtain ⟨result, perf, s', s₁, s₂, n, hrun, hs₁, hloop, hs', hcount⟩ :=
    loopRun_perform settings object (quiet_testbed u session) p s
  have hwork := workFrom_of_loopRun hu hloop
  rw [hs₁, ← hs'] at hwork
  exact ⟨result, perf, s', n, hrun, hwork, hcount⟩

/-- Take one session and two runs with the same work, in any surroundings in
which every line can be printed, whatever they print, however they pause and
whether they show their progress. Both ask the session the same with the same
answers and leave it alike, both succeed or both fail in the same way, and
they count the same. -/
theorem perform_sameWork {u : Surroundings ρ} {u' : Surroundings ρ'} (hu : u.Prints) (hu' : u'.Prints)
    {settings settings' : Settings} (hsame : settings.SameWork settings') {p p' : Performance}
    (hcounted : tally p = tally p') (d : δ) (s : ρ) (s' : ρ') :
    ∃ result result' perf perf' after t t',
      ((perform (u.testbed (recordedSession session)) settings object).run p).run ((d, []), s) =
        ((result, perf), (after, t))
      ∧ ((perform (u'.testbed (recordedSession session)) settings' object).run p').run ((d, []), s') =
        ((result', perf'), (after, t'))
      ∧ result.map (fun _ => ()) = result'.map (fun _ => ())
      ∧ tally perf = tally perf' := by
  obtain ⟨result, perf, ⟨after, t⟩, n, hrun, hwork, hcount⟩ :=
    workFrom_perform (recordedSession session) object hu settings p ((d, []), s)
  obtain ⟨result', perf', ⟨after', t'⟩, n', hrun', hwork', hcount'⟩ :=
    workFrom_perform (recordedSession session) object hu' settings' p' ((d, []), s')
  -- It is one work, since it only depends on what the settings agree in.
  rw [hsame.batchSize, hsame.valueSize, hsame.toList_offsets, hwork', Prod.mk.injEq, Prod.mk.injEq]
    at hwork
  obtain ⟨hresult, rfl, rfl⟩ := hwork
  refine ⟨result, result', perf, perf', after', t, t', hrun, hrun', hresult.symm, ?_⟩
  simp only [tally, tallyOf, Prod.mk.injEq] at hcounted hcount hcount' ⊢
  simp only [hcount, hcount', hcounted, hsame.batchSize, hsame.valueSize, and_self]

/-- A session whose second write fails. The run fails there, after two pairs,
whether nobody watches, or every pair is printed, the clock runs, and progress
is shown. -/
theorem perform_sameWork_secondFails :
    let session : StorageSession (StateM Nat) Batch := {
      removeObject := fun _ => pure (.ok ())
      writeObject := fun _ _ => pure (.ok ())
      prepare := fun batch => pure (.ok batch)
      operate := fun _ _ writes => (if writes = 1 then .error .closed else .ok (), writes + 1)
      mapSize := fun _ => pure (.ok 0) }
    let watched : Surroundings (List String × Nat) := {
      printLine := fun line s => (.ok (), (s.1 ++ [line], s.2))
      now := fun s => (s.2, (s.1, s.2 + 1))
      wallClock := pure ⟨.ofNat 0, .ofNat 0, by decide⟩
      pause := fun d s => ((), (s.1, s.2 + d.nanoseconds))
      progress := some ⟨fun _ => pure (), pure ()⟩ }
    let settings : Settings := ⟨2, 6, 1, false, .zero, by decide, by decide, by decide, by decide⟩
    let printing : Settings := { settings with debug := true, thinkTime := ⟨5⟩ }
    Surroundings.still.Prints ∧ watched.Prints ∧ settings.SameWork printing ∧
      ∃ result perf after t,
        ((perform (watched.testbed (recordedSession session)) printing "hw").run .empty).run
          ((0, []), ([], 0)) = ((result, perf), (after, t))
        ∧ result.map (fun _ => ()) = .error (.writeFailure 2 "hw" .closed) ∧ tally perf = (1, 2, 2) := by
  intro session watched settings printing
  have hstill : Surroundings.still.Prints := fun _ _ => rfl
  have hwatched : watched.Prints := fun _ _ => rfl
  have hsame : settings.SameWork printing := ⟨rfl, rfl, rfl, rfl⟩
  obtain ⟨result, result', perf, perf', after, t, t', hrun, hrun', hresult, hcount⟩ :=
    perform_sameWork session "hw" hstill hwatched hsame (rfl : tally .empty = tally .empty) 0 () ([], 0)
  -- How it goes when nobody watches is found by running it.
  have hfails : ((match result with | .error e => some e | .ok _ => none), tally perf) =
      (some (.writeFailure 2 "hw" .closed), 1, 2, 2) := by
    have hunwatched : (result, perf) = (((perform (Surroundings.still.testbed (recordedSession session))
        settings "hw").run .empty).run ((0, []), ())).1 := by rw [hrun]
    rw [Prod.mk.injEq] at hunwatched
    rw [hunwatched.1, hunwatched.2, run_perform, writeFrom_eq_forM, settings.toList_offsets]
    decide +kernel
  obtain _ | _ := result
  · simp only [Prod.mk.injEq, Option.some.injEq] at hfails
    obtain ⟨rfl, htally⟩ := hfails
    exact ⟨hstill, hwatched, hsame, result', perf', after, t', hrun', hresult.symm, hcount ▸ htally⟩
  · cases hfails

end Run

end MapBench
