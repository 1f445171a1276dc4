import MapBench.Proofs.Batch.Generate
import MapBench.Proofs.Batch.Offsets
import MapBench.Run.Basic

/-!
# `MapBench.Proofs.Run.Loop`: what a run does, step by step

A run does its steps in surroundings that have a state. Most facts
about runs are about a part of that state which only printing and the
session change; reading clocks, pausing and showing progress leave it
alone. `Testbed.Quiet` names such a part.

* `BatchRun`: the five ways in which the write of a batch can go, with
  the state in which each step is done.
* `LoopRun`: a run over offsets, which ends at the first failure.
* `batchRun_exec`, `loopRun_exec`, `loopRun_perform`: what a run really
  does is one of these, and it counts the batches that were written.
-/

set_option autoImplicit false

namespace MapBench.Run

variable {σ ω α β τ : Type}

/-! ### Running a part of a run -/

/-- What a part of a run comes to: its result, the measurements and
the surroundings. -/
def exec (x : RunM (StateM σ) α) (p : Performance) (s : σ) : Except RunError α × Performance × σ :=
  let r := (x.run.run p).run s
  (r.1.1, r.1.2, r.2)

/-- A failure ends the run; otherwise it goes on with the result. The
measurements and the state stay as they are at that point. -/
theorem exec_bind (x : RunM (StateM σ) α) (f : α → RunM (StateM σ) β) (p : Performance) (s : σ) :
    exec (x >>= f) p s = match exec x p s with
      | (.ok a, p, s) => exec (f a) p s
      | (.error e, p, s) => (.error e, p, s) := by
  simp only [exec, ExceptT.run_bind, StateT.run_bind]
  rcases (x.run.run p).run s with ⟨⟨e | a, p'⟩, s'⟩ <;> rfl

/-- What is done in the surroundings leaves the measurements alone. -/
theorem exec_outside (act : StateM σ α) (p : Performance) (s : σ) :
    exec (outside act) p s = (.ok (act.run s).1, p, (act.run s).2) :=
  rfl

/-- A success has no error to be told in other words. -/
theorem mapError_ok {ε ε' : Type} (a : α) (f : ε → ε') :
    (Except.ok a : Except ε α).mapError f = .ok a :=
  rfl

/-- A failure that ends a run changes nothing. -/
theorem exec_orEnd {ε : Type} (err : ε → RunError) (r : Except ε α) (p : Performance) (s : σ) :
    exec (orEnd err r : RunM (StateM σ) α) p s = (r.mapError err, p, s) := by
  cases r <;> rfl

/-- A change of the measurements leaves the surroundings alone. -/
theorem exec_measure (change : Performance → Performance) (p : Performance) (s : σ) :
    exec (modifyThe Performance change : RunM (StateM σ) Unit) p s = (.ok (), change p, s) :=
  rfl

variable (bed : Testbed (StateM σ) ω)

/-- A clock is started at the time that the surroundings tell. -/
theorem exec_startClock (phase : Phase) (p : Performance) (s : σ) :
    exec (startClock bed phase) p s = (.ok (), p.start phase (bed.now.run s).1, (bed.now.run s).2) :=
  rfl

/-- And it is stopped at the time that they tell then. -/
theorem exec_stopClock (phase : Phase) (p : Performance) (s : σ) :
    exec (stopClock bed phase) p s = (.ok (), p.stop phase (bed.now.run s).1, (bed.now.run s).2) :=
  rfl

/-- Print lines until that fails. This is `printPairs` without a run around
it, so that it can be unfolded by itself. -/
def printLines : List String → σ → Except OutputError Unit × σ
  | [], s => (.ok (), s)
  | line :: lines, s =>
    match (bed.printLine line).run s with
    | (.ok (), s) => printLines lines s
    | (.error e, s) => (.error e, s)

/-- Printing pairs is printing their lines. It leaves the measurements
alone, also if it fails. -/
theorem exec_printPairs (pairs : List Pair) (p : Performance) (s : σ) :
    exec (printPairs bed pairs) p s =
      ((printLines bed (pairs.map pairLine) s).1.mapError .output, p,
        (printLines bed (pairs.map pairLine) s).2) := by
  induction pairs generalizing s with
  | nil => rfl
  | cons pair pairs ih =>
    simp only [printPairs, exec_bind, exec_outside, exec_orEnd, List.map_cons, printLines]
    rcases (bed.printLine (pairLine pair)).run s with ⟨e | _, s'⟩
    · rfl
    · exact ih s'

/-! ### Surroundings of two parts -/

/-- Act on the first part of a state. This is how a session with a state of
its own is put into surroundings. -/
def onFirst (act : StateM σ α) : StateM (σ × τ) α := fun s =>
  ((act.run s.1).1, ((act.run s.1).2, s.2))

/-- Act on the second part of a state, and leave the first as it is. -/
def onSecond (act : StateM τ α) : StateM (σ × τ) α := fun s =>
  ((act.run s.2).1, (s.1, (act.run s.2).2))

/-- What surrounds a run besides its session. It may answer whatever its
state says, so nothing is assumed of clocks and output here. -/
structure Surroundings (ρ : Type) where
  printLine : String → StateM ρ (Except OutputError Unit)
  now : StateM ρ Nat
  wallClock : StateM ρ Timestamp
  pause : Duration → StateM ρ Unit
  progress : Option (ProgressBar (StateM ρ))

/-- Surroundings with a session that has a state of its own. Neither sees
the state of the other. -/
def Surroundings.testbed {ρ δ : Type} (u : Surroundings ρ) (session : StorageSession (StateM δ) ω) :
    Testbed (StateM (δ × ρ)) ω where
  session := session.lift onFirst
  printLine line := onSecond (u.printLine line)
  now := onSecond u.now
  wallClock := onSecond u.wallClock
  pause d := onSecond (u.pause d)
  progress := u.progress.map fun bar => {
    advance := fun n => onSecond (bar.advance n)
    finish := onSecond bar.finish }

/-- Surroundings in which no time passes and every line is printed. Runs on
fixed inputs are shown in them. -/
def Surroundings.still : Surroundings Unit where
  printLine _ := pure (.ok ())
  now := pure 0
  wallClock := pure ⟨.ofNat 0, .ofNat 0, by decide⟩
  pause _ := pure ()
  progress := none

/-! ### The write of a batch -/

/-- A batch of the settings can be made up exactly if its last index
has a key. -/
theorem generate_eq (settings : Settings) (offset : Nat) :
    Batch.generate settings.batchSize offset settings.valueSize =
      if offset + settings.batchSize ≤ Key.limit then
        .ok ⟨Pair.stretch settings.valueSize offset settings.batchSize⟩
      else .error (.tooWide (offset + settings.batchSize - 1)) := by
  have hpos := settings.batchSize_pos
  rw [Batch.generate_eq]
  split
  · rw [if_neg (by omega)]
  · rw [if_pos (by omega)]

/-- A batch that could be made up is the planned one. It is told by the
offset and the settings alone. -/
theorem eq_of_generate {settings : Settings} {offset : Nat} {batch : Batch}
    (made : Batch.generate settings.batchSize offset settings.valueSize = .ok batch) :
    batch = ⟨Pair.stretch settings.valueSize offset settings.batchSize⟩ :=
  (Batch.generate_eq_ok_iff.mp made).2

/-- A batch that could be made up has keys for all its indexes. This is what
keeps offsets within their words. -/
theorem fits_of_generate {settings : Settings} {offset : Nat} {batch : Batch}
    (made : Batch.generate settings.batchSize offset settings.valueSize = .ok batch) :
    offset + settings.batchSize ≤ Key.limit :=
  (Batch.generate_eq_ok_iff.mp made).1.resolve_left (Nat.ne_of_gt settings.batchSize_pos)

/-- The counts of the measurements: batches, pairs and bytes of
values. -/
def tally (p : Performance) : Nat × Nat × Nat :=
  (p.batches, p.pairs, p.valueBytes)

/-- The counts after so many batches more, each of them full. Every batch of
a run has the same number of pairs and of bytes. -/
def tallyOf (settings : Settings) (p : Performance) (batches : Nat) : Nat × Nat × Nat :=
  (p.batches + batches, p.pairs + batches * settings.batchSize,
    p.valueBytes + batches * (settings.batchSize * settings.valueSize))

/-- A part of the state that reading a clock, pausing and showing
progress leave alone. -/
structure Quiet (view : σ → τ) : Prop where
  now : ∀ s, view (bed.now.run s).2 = view s
  wallClock : ∀ s, view (bed.wallClock.run s).2 = view s
  pause : ∀ d s, view ((bed.pause d).run s).2 = view s
  advance : ∀ bar ∈ bed.progress, ∀ n s, view ((bar.advance n).run s).2 = view s
  finish : ∀ bar ∈ bed.progress, ∀ s, view (bar.finish.run s).2 = view s

/-- What can be seen of such a part is one, too. A record or a disk may hold
more than a statement is about. -/
theorem Quiet.comp {τ' : Type} {bed : Testbed (StateM σ) ω} {view : σ → τ} (h : Quiet bed view)
    (f : τ → τ') : Quiet bed fun s => f (view s) where
  now s := congrArg f (h.now s)
  wallClock s := congrArg f (h.wallClock s)
  pause d s := congrArg f (h.pause d s)
  advance bar hbar n s := congrArg f (h.advance bar hbar n s)
  finish bar hbar s := congrArg f (h.finish bar hbar s)

/-- What surrounds a session leaves the session alone. Its state is a part
that only the session changes. -/
theorem quiet_testbed {ρ δ : Type} (u : Surroundings ρ) (session : StorageSession (StateM δ) ω) :
    Quiet (u.testbed session) Prod.fst where
  now _ := rfl
  wallClock _ := rfl
  pause _ _ := rfl
  advance bar hbar n s := by
    simp only [Surroundings.testbed, Option.mem_def, Option.map_eq_some_iff] at hbar
    obtain ⟨bar', -, rfl⟩ := hbar
    rfl
  finish bar hbar s := by
    simp only [Surroundings.testbed, Option.mem_def, Option.map_eq_some_iff] at hbar
    obtain ⟨bar', -, rfl⟩ := hbar
    rfl

/-- Print the lines of a batch, if the settings ask for it. Otherwise
nothing can fail here. -/
def printBatch (settings : Settings) (batch : Batch) (s : σ) : Except OutputError Unit × σ :=
  if settings.debug then printLines bed (batch.pairs.map pairLine) s else (.ok (), s)

/-- What printing a line leaves alone, printing lines does, also if it
fails. -/
theorem view_printLines {bed : Testbed (StateM σ) ω} {view : σ → τ}
    (hprint : ∀ line s, view ((bed.printLine line).run s).2 = view s) (lines : List String) (s : σ) :
    view (printLines bed lines s).2 = view s := by
  induction lines generalizing s with
  | nil => rfl
  | cons line lines ih =>
    have hline := hprint line s
    rw [printLines]
    rcases hrun : (bed.printLine line).run s with ⟨e | _, s'⟩ <;> rw [hrun] at hline
    · exact hline
    · exact (ih s').trans hline

/-- What printing a line doesn't change, printing a batch doesn't change. -/
theorem view_printBatch {bed : Testbed (StateM σ) ω} {view : σ → τ}
    (hprint : ∀ line s, view ((bed.printLine line).run s).2 = view s) (settings : Settings)
    (batch : Batch) (s : σ) : view (printBatch bed settings batch s).2 = view s := by
  rw [printBatch]
  split
  · exact view_printLines hprint _ s
  · rfl

variable (view : σ → τ) (settings : Settings) (object : String)

/-- The ways in which the write of a batch can go. Each step is done
in a state that shows the same as the one after the step before. -/
inductive BatchRun (offset : Nat) (s : σ) : Except RunError Unit → σ → Prop
  | generateFailed {e : KeyError} {s' : σ}
      (made : Batch.generate settings.batchSize offset settings.valueSize = .error e)
      (same : view s' = view s) :
      BatchRun offset s (.error (.generate offset e)) s'
  | outputFailed {batch : Batch} {e : OutputError} {s₁ s' : σ}
      (made : Batch.generate settings.batchSize offset settings.valueSize = .ok batch)
      (before : view s₁ = view s) (printed : printBatch bed settings batch s₁ = (.error e, s')) :
      BatchRun offset s (.error (.output e)) s'
  | prepareFailed {batch : Batch} {e : SessionError} {s₁ s₂ s₃ s₄ s' : σ}
      (made : Batch.generate settings.batchSize offset settings.valueSize = .ok batch)
      (before : view s₁ = view s) (printed : printBatch bed settings batch s₁ = (.ok (), s₂))
      (between : view s₃ = view s₂) (prepared : (bed.session.prepare batch).run s₃ = (.error e, s₄))
      (same : view s' = view s₄) :
      BatchRun offset s (.error (.writeOpCreation offset e)) s'
  | operateFailed {batch : Batch} {op : ω} {e : SessionError} {s₁ s₂ s₃ s₄ s₅ s' : σ}
      (made : Batch.generate settings.batchSize offset settings.valueSize = .ok batch)
      (before : view s₁ = view s) (printed : printBatch bed settings batch s₁ = (.ok (), s₂))
      (between : view s₃ = view s₂) (prepared : (bed.session.prepare batch).run s₃ = (.ok op, s₄))
      (operated : (bed.session.operate object op).run s₄ = (.error e, s₅))
      (same : view s' = view s₅) :
      BatchRun offset s (.error (.writeFailure offset object e)) s'
  | written {batch : Batch} {op : ω} {s₁ s₂ s₃ s₄ s₅ s' : σ}
      (made : Batch.generate settings.batchSize offset settings.valueSize = .ok batch)
      (before : view s₁ = view s) (printed : printBatch bed settings batch s₁ = (.ok (), s₂))
      (between : view s₃ = view s₂) (prepared : (bed.session.prepare batch).run s₃ = (.ok op, s₄))
      (operated : (bed.session.operate object op).run s₄ = (.ok (), s₅))
      (same : view s' = view s₅) :
      BatchRun offset s (.ok ()) s'

/-- The ways in which a run over offsets can go, with the number of
batches that were written. -/
inductive LoopRun : List Nat → σ → Except RunError Unit → σ → Nat → Prop
  | done {s : σ} : LoopRun [] s (.ok ()) s 0
  | failed {offset : Nat} {offsets : List Nat} {s s' : σ} {e : RunError}
      (batch : BatchRun bed view settings object offset s (.error e) s') :
      LoopRun (offset :: offsets) s (.error e) s' 0
  | next {offset : Nat} {offsets : List Nat} {s s' s'' : σ} {r : Except RunError Unit} {n : Nat}
      (batch : BatchRun bed view settings object offset s (.ok ()) s')
      (rest : LoopRun offsets s' r s'' n) :
      LoopRun (offset :: offsets) s r s'' (n + 1)

variable {bed view}

/-- What neither printing nor the session changes is the same after a run
over offsets, if the view hides whatever else happens. -/
theorem LoopRun.view_eq {settings : Settings} {object : String} {offsets : List Nat} {s s' : σ}
    {r : Except RunError Unit} {n : Nat}
    (hprint : ∀ line s, view ((bed.printLine line).run s).2 = view s)
    (hprepare : ∀ batch s, view ((bed.session.prepare batch).run s).2 = view s)
    (hoperate : ∀ op s, view ((bed.session.operate object op).run s).2 = view s)
    (h : LoopRun bed view settings object offsets s r s' n) : view s' = view s := by
  have hpairs {batch : Batch} {s₁ s₂ : σ} {r : Except OutputError Unit}
      (printed : printBatch bed settings batch s₁ = (r, s₂)) : view s₂ = view s₁ := by
    rw [← view_printBatch hprint settings batch s₁, printed]
  have hprepared {batch : Batch} {s₁ s₂ : σ} {r : Except SessionError ω}
      (prepared : (bed.session.prepare batch).run s₁ = (r, s₂)) : view s₂ = view s₁ := by
    rw [← hprepare batch s₁, prepared]
  have hoperated {op : ω} {s₁ s₂ : σ} {r : Except SessionError Unit}
      (operated : (bed.session.operate object op).run s₁ = (r, s₂)) : view s₂ = view s₁ := by
    rw [← hoperate op s₁, operated]
  -- A batch goes through some of these steps, however it ends.
  have hbatch {offset : Nat} {s s' : σ} {r : Except RunError Unit}
      (batch : BatchRun bed view settings object offset s r s') : view s' = view s := by
    cases batch with
    | generateFailed made same => exact same
    | outputFailed made before printed => rw [hpairs printed, before]
    | prepareFailed made before printed between prepared same =>
      rw [same, hprepared prepared, between, hpairs printed, before]
    | operateFailed made before printed between prepared operated same =>
      rw [same, hoperated operated, hprepared prepared, between, hpairs printed, before]
    | written made before printed between prepared operated same =>
      rw [same, hoperated operated, hprepared prepared, between, hpairs printed, before]
  induction h with
  | done => rfl
  | failed batch => exact hbatch batch
  | next batch rest ih => rw [ih, hbatch batch]

/-- No batch more is no count more. -/
theorem tallyOf_zero (p : Performance) : tallyOf settings p 0 = tally p := by
  simp [tallyOf, tally]

/-- A run goes on after the lines of a batch if they could all be
printed. -/
theorem exec_printBatch (batch : Batch) (rest : RunM (StateM σ) Unit) (p : Performance) (s : σ) :
    exec (if settings.debug then (do printPairs bed batch.pairs; rest) else rest) p s =
      match printBatch bed settings batch s with
      | (.ok (), s) => exec rest p s
      | (.error e, s) => (.error (.output e), p, s) := by
  rw [printBatch]
  split
  · rw [exec_bind, exec_printPairs]
    rcases printLines bed (batch.pairs.map pairLine) s with ⟨_ | _, s'⟩ <;> rfl
  · rfl

/-- A prepared write is applied at once. Either step may fail, and the error
tells which. -/
theorem run_submit (offset : Nat) (batch : Batch) (s : σ) :
    (submit bed object offset batch).run s = match (bed.session.prepare batch).run s with
      | (.error e, s) => (.error (.writeOpCreation offset e), s)
      | (.ok op, s) =>
        (((bed.session.operate object op).run s).1.mapError (.writeFailure offset object),
          ((bed.session.operate object op).run s).2) := by
  rw [submit, StateT.run_bind]
  rcases (bed.session.prepare batch).run s with ⟨e | op, s'⟩ <;> rfl

/-- After a write that succeeded, the batch is counted and nothing
else. -/
theorem exec_afterwards (hq : Quiet bed view) (batch : Batch) (p : Performance) (s : σ) :
    ∃ p' s', exec (do
        modifyThe Performance fun p => p.countBatch batch.size batch.valueBytes
        advanceProgress bed batch.size
        think bed settings.thinkTime) p s = (.ok (), p', s')
      ∧ tally p' = tally (p.countBatch batch.size batch.valueBytes) ∧ view s' = view s := by
  obtain ⟨s₁, hadvance, hs₁⟩ : ∃ s₁, (∀ p, exec (advanceProgress bed batch.size) p s = (.ok (), p, s₁))
      ∧ view s₁ = view s := by
    rw [advanceProgress]
    cases hbar : bed.progress with
    | none => exact ⟨s, fun _ => rfl, rfl⟩
    | some bar => exact ⟨_, fun p => exec_outside _ p s, hq.advance bar hbar batch.size s⟩
  simp only [exec_bind, exec_measure, hadvance, think]
  split
  · exact ⟨_, s₁, rfl, rfl, hs₁⟩
  · simp only [exec_bind, exec_startClock, exec_stopClock, exec_outside]
    exact ⟨_, _, rfl, rfl, by rw [hq.now, hq.pause, hq.now, hs₁]⟩

/-- A made-up batch counts as a full one. The counters are asked of the
batch, and the planned one has as many pairs as the settings say. -/
theorem tally_countBatch {batch : Batch} {offset : Nat} {p q : Performance}
    (made : Batch.generate settings.batchSize offset settings.valueSize = .ok batch)
    (hq : tally q = tally p) :
    tally (q.countBatch batch.size batch.valueBytes) = tallyOf settings p 1 := by
  obtain rfl := eq_of_generate made
  simp only [tally, Prod.mk.injEq] at hq
  simp [tally, tallyOf, Performance.countBatch, Batch.size, Pair.length_stretch,
    Pair.valueBytes_stretch, hq]

/-- Once its lines are printed, a batch is prepared and applied, and
counted if that succeeded. -/
theorem exec_submission (hq : Quiet bed view) {offset : Nat} {batch : Batch} {p q : Performance}
    {s s₁ s₂ : σ} (made : Batch.generate settings.batchSize offset settings.valueSize = .ok batch)
    (before : view s₁ = view s) (printed : printBatch bed settings batch s₁ = (.ok (), s₂))
    (counted : tally q = tally p) :
    ∃ r p' s', exec (do
        startClock bed .submission
        let written ← outside (submit bed object offset batch)
        stopClock bed .submission
        orEnd id written
        modifyThe Performance fun p => p.countBatch batch.size batch.valueBytes
        advanceProgress bed batch.size
        think bed settings.thinkTime) q s₂ = (r, p', s')
      ∧ BatchRun bed view settings object offset s r s'
      ∧ tally p' = tallyOf settings p r.isOk.toNat := by
  have uncounted : tally q = tallyOf settings p 0 := counted.trans (tallyOf_zero settings p).symm
  simp only [exec_bind, exec_startClock, exec_stopClock, exec_outside, run_submit, exec_orEnd]
  have between := hq.now s₂
  generalize (bed.now.run s₂).2 = s₃ at between ⊢
  -- The three ends of a submission, in the order in which they can come.
  rcases prepared : (bed.session.prepare batch).run s₃ with ⟨e | op, s₄⟩
  · exact ⟨_, _, _, rfl, .prepareFailed made before printed between prepared (hq.now s₄), uncounted⟩
  · simp only
    rcases operated : (bed.session.operate object op).run s₄ with ⟨e | _, s₅⟩
    · exact ⟨_, _, _, rfl, .operateFailed made before printed between prepared operated (hq.now s₅),
        uncounted⟩
    · obtain ⟨p', s', hafter, htally, hview⟩ := exec_afterwards settings hq batch
        ((q.start .submission (bed.now.run s₂).1).stop .submission (bed.now.run s₅).1)
        (bed.now.run s₅).2
      simp only [exec_bind] at hafter
      refine ⟨_, p', s', hafter,
        .written made before printed between prepared operated (hview.trans (hq.now s₅)), ?_⟩
      rw [htally]
      exact tally_countBatch settings made counted

/-- The write of a batch goes in one of the five ways, and counts the
batch exactly if it was written. -/
theorem batchRun_exec (hq : Quiet bed view) (offset : Nat) (p : Performance) (s : σ) :
    ∃ r p' s', exec (writeBatch bed settings object offset) p s = (r, p', s')
      ∧ BatchRun bed view settings object offset s r s'
      ∧ tally p' = tallyOf settings p r.isOk.toNat := by
  rw [writeBatch, exec_bind, exec_startClock]
  simp only
  rw [exec_bind, exec_stopClock]
  simp only
  rw [exec_bind, exec_orEnd]
  cases made : Batch.generate settings.batchSize offset settings.valueSize with
  | error e =>
    refine ⟨_, _, _, rfl, .generateFailed made ?_, (tallyOf_zero settings p).symm⟩
    rw [hq.now, hq.now]
  | ok batch =>
    simp only [mapError_ok]
    rw [exec_printBatch]
    have before : view (bed.now.run (bed.now.run s).2).2 = view s := by rw [hq.now, hq.now]
    generalize (bed.now.run (bed.now.run s).2).2 = s₁ at before ⊢
    rcases printed : printBatch bed settings batch s₁ with ⟨e | _, s₂⟩
    · exact ⟨_, _, s₂, rfl, .outputFailed made before printed, (tallyOf_zero settings p).symm⟩
    · exact exec_submission settings object hq made before printed rfl

/-! ### The whole run -/

/-- Writing from offsets on is writing the batch of each offset that is
still due. -/
theorem writeFrom_eq_forM (offsets : Offsets) :
    writeFrom bed settings object offsets =
      offsets.toList.forM (writeBatch bed settings object) := by
  induction offsets using writeFrom.induct with
  | case1 offsets h =>
    rw [writeFrom, Offsets.toList_of_next?_none h]
    split
    · rfl
    · simp_all
  | case2 offsets offset rest h _ ih =>
    rw [writeFrom, Offsets.toList_of_next?_some h]
    split
    · simp_all
    · simp_all

/-- A run over offsets counts the batches that were written. The induction
is on the offsets, with one batch at each. -/
theorem loopRun_exec (hq : Quiet bed view) (offsets : List Nat) (p : Performance) (s : σ) :
    ∃ r p' s' n, exec (offsets.forM (writeBatch bed settings object)) p s = (r, p', s')
      ∧ LoopRun bed view settings object offsets s r s' n ∧ tally p' = tallyOf settings p n := by
  induction offsets generalizing p s with
  | nil => exact ⟨.ok (), p, s, 0, rfl, .done, (tallyOf_zero settings p).symm⟩
  | cons offset offsets ih =>
    obtain ⟨r, p₁, s₁, hbatch, hrun, hcount⟩ := batchRun_exec settings object hq offset p s
    change ∃ r p' s' n, exec (writeBatch bed settings object offset >>= fun _ =>
      offsets.forM (writeBatch bed settings object)) p s = (r, p', s') ∧ _
    rw [exec_bind, hbatch]
    cases r with
    | error e => exact ⟨.error e, p₁, s₁, 0, rfl, .failed hrun, hcount⟩
    | ok _ =>
      obtain ⟨r, p₂, s₂, n, hrest, hloop, hmore⟩ := ih p₁ s₁
      refine ⟨r, p₂, s₂, n + 1, hrest, .next hrun hloop, ?_⟩
      simp only [tally, tallyOf, Except.isOk, Except.toBool, Bool.toNat_true, Nat.one_mul,
        Prod.mk.injEq] at hcount hmore ⊢
      simp only [hmore, hcount, Nat.succ_mul]
      omega

/-- Taking down the progress display leaves the measurements alone. It is
done behind every run, also one that failed. -/
theorem run_finishProgress (hq : Quiet bed view) (p : Performance) (s : σ) :
    ∃ s', ((finishProgress bed).run p).run s = (((), p), s') ∧ view s' = view s := by
  rw [finishProgress]
  cases hbar : bed.progress with
  | none => exact ⟨s, rfl, rfl⟩
  | some bar => exact ⟨_, rfl, hq.finish bar hbar s⟩

/-- A whole run starts its clock, writes from the first offset on,
stops the clock and takes down the display. -/
theorem run_perform (p : Performance) (s : σ) :
    ((perform bed settings object).run p).run s =
      let start := bed.wallClock.run s
      let began := bed.now.run start.2
      let q := exec (writeFrom bed settings object settings.offsets) (p.start .run began.1) began.2
      let ended := bed.now.run q.2.2
      let stop := bed.wallClock.run ended.2
      let last := ((finishProgress bed).run (q.2.1.stop .run ended.1)).run stop.2
      ((q.1.map fun () => Elapsed.between start.1 stop.1, last.1.2), last.2) :=
  rfl

/-- What a run tells of its time is the time between two timestamps. They
are read before and after, and never compared with its clocks. -/
theorem exists_between_of_perform {p p' : Performance} {s s' : σ} {elapsed : Elapsed}
    (h : ((perform bed settings object).run p).run s = ((.ok elapsed, p'), s')) :
    ∃ start stop, elapsed = .between start stop := by
  rw [run_perform] at h
  have hresult := congrArg (Prod.fst ∘ Prod.fst) h
  dsimp only [Function.comp_apply] at hresult
  generalize Prod.fst (exec _ _ _) = result at hresult
  cases result with
  | error e => cases hresult
  | ok _ => exact ⟨_, _, (Except.ok.inj hresult).symm⟩

/-- A whole run is a run over the offsets of its settings, in a state
that shows the same at its beginning and its end. -/
theorem loopRun_perform (hq : Quiet bed view) (p : Performance) (s : σ) :
    ∃ r p' s' s₁ s₂ n, ((perform bed settings object).run p).run s = ((r, p'), s')
      ∧ view s₁ = view s ∧ LoopRun bed view settings object settings.offsets.toList s₁
        (r.map fun _ => ()) s₂ n ∧ view s' = view s₂ ∧ tally p' = tallyOf settings p n := by
  let start := bed.wallClock.run s
  let began := bed.now.run start.2
  obtain ⟨r, p₂, s₂, n, hexec, hloop, hcount⟩ :=
    loopRun_exec settings object hq settings.offsets.toList (p.start .run began.1) began.2
  rw [← writeFrom_eq_forM] at hexec
  let ended := bed.now.run s₂
  let stop := bed.wallClock.run ended.2
  obtain ⟨s', hfinish, hview⟩ := run_finishProgress hq (p₂.stop .run ended.1) stop.2
  refine ⟨r.map fun () => Elapsed.between start.1 stop.1, p₂.stop .run ended.1, s', began.2, s₂, n,
    ?_, ?_, ?_, ?_, hcount⟩
  · simp only [run_perform, start, began, hexec]
    rw [hfinish]
  · rw [hq.now, hq.wallClock]
  · cases r <;> exact hloop
  · rw [hview, hq.wallClock, hq.now]

end MapBench.Run
