import MapBench.Proofs.Run.Loop

/-!
# `MapBench.Proofs.Run.Recording`: the calls of a run

To say which calls a run makes, its surroundings keep a record of
them: every line that is printed and every operation of the session,
each with its answer. The answers may depend on everything that has
happened so far, since they come from a state.

* `Call`, `recorded`: the record.
* `perform_recorded`: keeping it changes nothing else about a run.
-/

set_option autoImplicit false

namespace MapBench.Run

/-- A call that leaves a run, with its answer. Those of the session and the
lines that are printed are all that others can see. -/
inductive Call (ω : Type)
  | print (line : String) (answer : Except OutputError Unit)
  | removeObject (object : String) (answer : Except SessionError Unit)
  | writeObject (object : String) (data : List UInt8) (answer : Except SessionError Unit)
  | prepare (batch : Batch) (answer : Except SessionError ω)
  | operate (object : String) (op : ω) (answer : Except SessionError Unit)
  | mapSize (object : String) (answer : Except SessionError Nat)

variable {σ ω α β : Type}

/-- Do something and record it as a call. The record only grows, and nothing
that is done depends on it. -/
def record (call : α → Call ω) (act : StateM σ α) : StateM (σ × List (Call ω)) α := fun s =>
  ((act.run s.1).1, ((act.run s.1).2, s.2 ++ [call (act.run s.1).1]))

/-- A recorded call stands at the end of the record. So the order of the
record is that in which things were done. -/
theorem log_of_record {call : α → Call ω} {act : StateM σ α} {a : α} {s s' : σ × List (Call ω)}
    (h : (record call act).run s = (a, s')) : s'.2 = s.2 ++ [call a] := by
  cases h
  rfl

/-- The same surroundings with a record of the calls. Clocks, pauses and the
progress display aren't recorded. -/
def recorded (bed : Testbed (StateM σ) ω) : Testbed (StateM (σ × List (Call ω))) ω where
  session := {
    removeObject := fun object => record (.removeObject object) (bed.session.removeObject object)
    writeObject := fun object data =>
      record (.writeObject object data) (bed.session.writeObject object data)
    prepare := fun batch => record (.prepare batch) (bed.session.prepare batch)
    operate := fun object op => record (.operate object op) (bed.session.operate object op)
    mapSize := fun object => record (.mapSize object) (bed.session.mapSize object) }
  printLine line := record (.print line) (bed.printLine line)
  now := onFirst bed.now
  wallClock := onFirst bed.wallClock
  pause d := onFirst (bed.pause d)
  progress := bed.progress.map fun bar => {
    advance := fun n => onFirst (bar.advance n)
    finish := onFirst bar.finish }

/-- Reading clocks, pausing and showing progress are no calls, so they leave
the record alone. -/
theorem quiet_recorded (bed : Testbed (StateM σ) ω) : Quiet (recorded bed) Prod.snd where
  now _ := rfl
  wallClock _ := rfl
  pause _ _ := rfl
  advance bar hbar n s := by
    simp only [recorded, Option.mem_def, Option.map_eq_some_iff] at hbar
    obtain ⟨bar', -, rfl⟩ := hbar
    rfl
  finish bar hbar s := by
    simp only [recorded, Option.mem_def, Option.map_eq_some_iff] at hbar
    obtain ⟨bar', -, rfl⟩ := hbar
    rfl

/-! ### The record changes nothing else -/

/-- One computation does what the other does, and may also record
calls. -/
def Shadows (x : StateM (σ × List (Call ω)) α) (y : StateM σ α) : Prop :=
  ∀ s log, ∃ log', x.run (s, log) = ((y.run s).1, ((y.run s).2, log'))

namespace Shadows

variable {x : StateM (σ × List (Call ω)) α} {y : StateM σ α}

/-- What is done to the first part of a state is shadowed by itself. -/
theorem onFirst (act : StateM σ α) : Shadows (Run.onFirst act : StateM (σ × List (Call ω)) α) act :=
  fun _ log => ⟨log, rfl⟩

/-- What is recorded is shadowed by the same without a record. -/
theorem record (call : α → Call ω) (act : StateM σ α) : Shadows (Run.record call act) act :=
  fun _ _ => ⟨_, rfl⟩

/-- Doing nothing is shadowed by doing nothing. -/
theorem pure (a : α) : Shadows (Pure.pure a : StateM (σ × List (Call ω)) α) (Pure.pure a) :=
  fun _ log => ⟨log, rfl⟩

/-- What is done one after another is shadowed step by step, since the
answers agree. -/
theorem bind {f : α → StateM (σ × List (Call ω)) β} {g : α → StateM σ β} (hx : Shadows x y)
    (hf : ∀ a, Shadows (f a) (g a)) : Shadows (x >>= f) (y >>= g) := by
  intro s log
  obtain ⟨log₁, h₁⟩ := hx s log
  obtain ⟨log₂, h₂⟩ := hf (y.run s).1 (y.run s).2 log₁
  refine ⟨log₂, ?_⟩
  rw [StateT.run_bind, h₁]
  exact h₂

end Shadows

/-- One part of a run does what the other does, and may also record
calls. -/
def Mirrors (x : RunM (StateM (σ × List (Call ω))) α) (y : RunM (StateM σ) α) : Prop :=
  ∀ p s log, ∃ log', exec x p (s, log) =
    ((exec y p s).1, (exec y p s).2.1, ((exec y p s).2.2, log'))

namespace Mirrors

variable {x : RunM (StateM (σ × List (Call ω))) α} {y : RunM (StateM σ) α}

/-- The same of runs: a run that does nothing is mirrored by one that does
nothing. -/
theorem pure (a : α) : Mirrors (Pure.pure a : RunM (StateM (σ × List (Call ω))) α) (Pure.pure a) :=
  fun _ _ log => ⟨log, rfl⟩

/-- A failure ends both runs. -/
theorem orEnd {ε : Type} (err : ε → RunError) (r : Except ε α) :
    Mirrors (Run.orEnd err r : RunM (StateM (σ × List (Call ω))) α) (Run.orEnd err r) := by
  intro p s log
  rw [exec_orEnd, exec_orEnd]
  exact ⟨log, rfl⟩

/-- Measurements aren't part of the surroundings, so both runs change them
alike. -/
theorem measure (change : Performance → Performance) :
    Mirrors (modifyThe Performance change : RunM (StateM (σ × List (Call ω))) Unit)
      (modifyThe Performance change) :=
  fun _ _ log => ⟨log, rfl⟩

/-- What is done in the surroundings is mirrored if it is shadowed. -/
theorem outside {act : StateM (σ × List (Call ω)) α} {act' : StateM σ α} (h : Shadows act act') :
    Mirrors (Run.outside act) (Run.outside act') := by
  intro p s log
  obtain ⟨log', hact⟩ := h s log
  refine ⟨log', ?_⟩
  rw [exec_outside, exec_outside, hact]

/-- Runs are mirrored step by step. If the first step fails, neither goes
on. -/
theorem bind {f : α → RunM (StateM (σ × List (Call ω))) β} {g : α → RunM (StateM σ) β}
    (hx : Mirrors x y) (hf : ∀ a, Mirrors (f a) (g a)) : Mirrors (x >>= f) (y >>= g) := by
  intro p s log
  obtain ⟨log₁, h₁⟩ := hx p s log
  rw [exec_bind, exec_bind, h₁]
  generalize exec y p s = r
  rcases r with ⟨e | a, p', s'⟩
  · exact ⟨log₁, rfl⟩
  · exact hf a p' s' log₁

/-- So a loop is mirrored if what it does each time is. -/
theorem forM {f : α → RunM (StateM (σ × List (Call ω))) Unit} {g : α → RunM (StateM σ) Unit}
    (hf : ∀ a, Mirrors (f a) (g a)) : (as : List α) → Mirrors (as.forM f) (as.forM g)
  | [] => pure ()
  | a :: as => bind (hf a) fun _ => forM hf as

end Mirrors

section

variable (bed : Testbed (StateM σ) ω)

/-- Both runs read the same clock when a phase begins. -/
theorem mirrors_startClock (phase : Phase) :
    Mirrors (startClock (recorded bed) phase) (startClock bed phase) :=
  .bind (.outside (.onFirst bed.now)) fun _ => .measure _

/-- And the same when it ends. -/
theorem mirrors_stopClock (phase : Phase) :
    Mirrors (stopClock (recorded bed) phase) (stopClock bed phase) :=
  .bind (.outside (.onFirst bed.now)) fun _ => .measure _

/-- Both print the same lines, and stop at the same one if it can't be
printed. -/
theorem mirrors_printPairs : (pairs : List Pair) →
    Mirrors (printPairs (recorded bed) pairs) (printPairs bed pairs)
  | [] => .pure ()
  | _ :: pairs =>
    .bind (.outside (.record _ _)) fun _ => .bind (.orEnd _ _) fun _ => mirrors_printPairs pairs

/-- Both prepare and apply the same write. -/
theorem shadows_submit (object : String) (offset : Nat) (batch : Batch) :
    Shadows (submit (recorded bed) object offset batch) (submit bed object offset batch) := by
  refine .bind (.record _ _) fun r => ?_
  cases r with
  | error e => exact .pure _
  | ok op => exact .bind (.record _ _) fun _ => .pure _

/-- Both show the same progress, if they show any. -/
theorem mirrors_advanceProgress (pairs : Nat) :
    Mirrors (advanceProgress (recorded bed) pairs) (advanceProgress bed pairs) := by
  simp only [advanceProgress, recorded]
  cases bed.progress with
  | none => exact .pure ()
  | some bar => exact .outside (.onFirst _)

/-- Both pause for the same time. -/
theorem mirrors_think (d : Duration) : Mirrors (think (recorded bed) d) (think bed d) := by
  rw [think, think]
  split
  · exact .pure ()
  · exact .bind (mirrors_startClock bed .think) fun _ => .bind (.outside (.onFirst _)) fun _ =>
      mirrors_stopClock bed .think

/-- So the write of a batch is mirrored by the write of that batch. A whole
run follows from it. -/
theorem mirrors_writeBatch (settings : Settings) (object : String) (offset : Nat) :
    Mirrors (writeBatch (recorded bed) settings object offset)
      (writeBatch bed settings object offset) := by
  have hsubmission (batch : Batch) : Mirrors (do
        startClock (recorded bed) .submission
        let written ← outside (submit (recorded bed) object offset batch)
        stopClock (recorded bed) .submission
        orEnd id written
        modifyThe Performance fun p => p.countBatch batch.size batch.valueBytes
        advanceProgress (recorded bed) batch.size
        think (recorded bed) settings.thinkTime) (do
        startClock bed .submission
        let written ← outside (submit bed object offset batch)
        stopClock bed .submission
        orEnd id written
        modifyThe Performance fun p => p.countBatch batch.size batch.valueBytes
        advanceProgress bed batch.size
        think bed settings.thinkTime) :=
    .bind (mirrors_startClock bed .submission) fun _ =>
      .bind (.outside (shadows_submit bed object offset batch)) fun _ =>
        .bind (mirrors_stopClock bed .submission) fun _ => .bind (.orEnd _ _) fun _ =>
          .bind (.measure _) fun _ => .bind (mirrors_advanceProgress bed batch.size) fun _ =>
            mirrors_think bed settings.thinkTime
  -- Before the submission come the batch and, if they are asked for, its lines.
  rw [writeBatch, writeBatch]
  refine .bind (mirrors_startClock bed .generation) fun _ =>
    .bind (mirrors_stopClock bed .generation) fun _ => .bind (.orEnd _ _) fun batch => ?_
  cases settings.debug with
  | true => exact .bind (mirrors_printPairs bed batch.pairs) fun _ => hsubmission batch
  | false => exact hsubmission batch

/-- Keeping the record changes nothing else about a run: neither what
it comes to, nor what it measures, nor the surroundings. -/
theorem perform_recorded (settings : Settings) (object : String) (p : Performance) :
    Shadows ((perform (recorded bed) settings object).run p) ((perform bed settings object).run p) := by
  have hloop : Mirrors (writeFrom (recorded bed) settings object settings.offsets)
      (writeFrom bed settings object settings.offsets) := by
    rw [writeFrom_eq_forM, writeFrom_eq_forM]
    exact .forM (mirrors_writeBatch bed settings object) _
  intro s log
  have hfinish (q : Performance) :
      Shadows ((finishProgress (recorded bed)).run q) ((finishProgress bed).run q) := by
    simp only [finishProgress, recorded]
    cases bed.progress with
    | none => exact fun _ log => ⟨log, rfl⟩
    | some bar => exact fun _ log => ⟨log, rfl⟩
  let start := bed.wallClock.run s
  let began := bed.now.run start.2
  obtain ⟨log₁, hexec⟩ := hloop (p.start .run began.1) began.2 log
  let q := exec (writeFrom bed settings object settings.offsets) (p.start .run began.1) began.2
  let ended := bed.now.run q.2.2
  obtain ⟨log₂, hlast⟩ := hfinish (q.2.1.stop .run ended.1) (bed.wallClock.run ended.2).2 log₁
  refine ⟨log₂, ?_⟩
  -- The clocks read the same with the record beside them.
  have hbegan : (recorded bed).now.run ((recorded bed).wallClock.run (s, log)).2 =
      (began.1, (began.2, log)) := rfl
  have hended : (recorded bed).now.run (q.2.2, log₁) = (ended.1, (ended.2, log₁)) := rfl
  have hstop : (recorded bed).wallClock.run (ended.2, log₁) =
      ((bed.wallClock.run ended.2).1, ((bed.wallClock.run ended.2).2, log₁)) := rfl
  rw [run_perform, run_perform]
  simp only [hbegan, hexec]
  rw [hended]
  simp only [hstop]
  rw [hlast]
  rfl

end

end MapBench.Run
