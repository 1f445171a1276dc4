import MapBench.Proofs.Run.Counters
import MapBench.Proofs.Time.Clocks

/-!
# `MapBench.Proofs.Run.Phases`: the clocks of a run

A run has a clock of its own and one for each of its phases. They are
started and stopped in several places, with failures in between. While
a run goes on, its own clock runs, and at most one other does, so what
the phases add up to never gets ahead of the run. However a run ends,
all clocks stand still behind it.

* `TellsTime`: surroundings in which time never goes back.
  `tellsTime_timed`: so it is with any readings in order.
* `Leads`: what holds behind a part of a run, and behind its failure.
* `Nested`, `AtRest`: the clocks during a run, and between runs.
* `leads_writeBatch`, `leads_forM`, `atRest_perform`: a batch, a run over
  offsets, a whole run.
* `balanced_performAll`: any number of runs, one after another.
-/

set_option autoImplicit false

namespace MapBench

namespace Performance

/-- What the clock of a phase reads, in nanoseconds. If the clock runs, that
depends on when it is read. -/
def timeOf (p : Performance) (phase : Phase) (now : Nat) : Nat :=
  (p.clocks.read phase now).nanoseconds

/-- What the phases of a run add up to. The clock of the run itself isn't
one of them. -/
def phasesTime (p : Performance) (now : Nat) : Nat :=
  p.timeOf .generation now + p.timeOf .submission now + p.timeOf .think now

/-- A clock gains at most the time that passes, whether it runs or not. -/
theorem timeOf_le_add (p : Performance) (phase : Phase) (t now : Nat) :
    p.timeOf phase now ≤ p.timeOf phase t + (now - t) := by
  unfold timeOf Clocks.read Stopwatch.read
  cases (p.clocks.get phase).started with
  | none => exact Nat.le_add_right ..
  | some began =>
    show _ + (now - began) ≤ _ + (t - began) + (now - t)
    omega

/-- A clock that runs goes on with the time. It must have been started by
then, since no time before that counts. -/
theorem timeOf_of_running {p : Performance} {phase : Phase} {began t now : Nat}
    (h : (p.clocks.get phase).started = some began) (hbegan : began ≤ t) (hnow : t ≤ now) :
    p.timeOf phase now = p.timeOf phase t + (now - t) := by
  unfold timeOf Clocks.read Stopwatch.read
  rw [h]
  show _ + (now - began) = _ + (t - began) + (now - t)
  omega

/-- A clock that stands still doesn't, however much time passes. -/
theorem timeOf_of_standing {p : Performance} {phase : Phase}
    (h : (p.clocks.get phase).started = none) (t now : Nat) : p.timeOf phase now = p.timeOf phase t := by
  unfold timeOf Clocks.read Stopwatch.read
  rw [h]

/-- Starting a clock changes no reading at that instant. That includes the
clock itself, which begins with what it had. -/
theorem timeOf_start (p : Performance) (phase other : Phase) (t : Nat) :
    (p.start phase t).timeOf other t = p.timeOf other t := by
  unfold timeOf Clocks.read start
  by_cases h : phase = other
  · subst h
    rw [Clocks.get_start_self, Stopwatch.read_start]
    simp
  · rw [Clocks.get_start_of_ne _ h]

/-- Neither does stopping it, since what it has gained is kept. -/
theorem timeOf_stop (p : Performance) (phase other : Phase) (t : Nat) :
    (p.stop phase t).timeOf other t = p.timeOf other t := by
  unfold timeOf Clocks.read stop
  by_cases h : phase = other
  · subst h
    rw [Clocks.get_stop_self, Stopwatch.read_stop]
  · rw [Clocks.get_stop_of_ne _ h]

/-- So the sum of the phases is the same before and after a clock is
started. -/
theorem phasesTime_start (p : Performance) (phase : Phase) (t : Nat) :
    (p.start phase t).phasesTime t = p.phasesTime t := by
  unfold phasesTime
  simp only [timeOf_start]

/-- And before and after one is stopped. -/
theorem phasesTime_stop (p : Performance) (phase : Phase) (t : Nat) :
    (p.stop phase t).phasesTime t = p.phasesTime t := by
  unfold phasesTime
  simp only [timeOf_stop]

/-- Starting one clock leaves the others alone. -/
theorem get_start_of_ne (p : Performance) {phase other : Phase} (h : phase ≠ other) (t : Nat) :
    (p.start phase t).clocks.get other = p.clocks.get other :=
  Clocks.get_start_of_ne _ h t

/-- And so does stopping one. -/
theorem get_stop_of_ne (p : Performance) {phase other : Phase} (h : phase ≠ other) (t : Nat) :
    (p.stop phase t).clocks.get other = p.clocks.get other :=
  Clocks.get_stop_of_ne _ h t

/-- A stopped clock stands still, and the others do if they did. This also
covers a clock that wasn't running when it was stopped. -/
theorem standing_stop {p : Performance} {phase other : Phase}
    (h : phase ≠ other → (p.clocks.get other).started = none) (t : Nat) :
    ((p.stop phase t).clocks.get other).started = none := by
  by_cases he : phase = other
  · subst he
    show ((p.clocks.stop phase t).get phase).started = none
    rw [Clocks.get_stop_self, Stopwatch.started_stop]
  · rw [get_stop_of_ne _ he, h he]

end Performance

namespace Run

variable {σ ω α β : Type}

/-! ### Time -/

/-- In these surroundings time never goes back: the clock tells no less
than what is known to be over, and nothing that happens makes that
less. -/
structure TellsTime (bed : Testbed (StateM σ) ω) (time : σ → Nat) : Prop where
  told : ∀ s, time s ≤ (bed.now.run s).1 ∧ (bed.now.run s).1 ≤ time (bed.now.run s).2
  wallClock : ∀ s, time s ≤ time (bed.wallClock.run s).2
  paused : ∀ d s, time s ≤ time ((bed.pause d).run s).2
  printed : ∀ line s, time s ≤ time ((bed.printLine line).run s).2
  prepared : ∀ batch s, time s ≤ time ((bed.session.prepare batch).run s).2
  operated : ∀ object op s, time s ≤ time ((bed.session.operate object op).run s).2
  advanced : ∀ bar ∈ bed.progress, ∀ n s, time s ≤ time ((bar.advance n).run s).2
  finished : ∀ bar ∈ bed.progress, ∀ s, time s ≤ time (bar.finish.run s).2

/-- The same surroundings with a clock that gives these readings, one
after another. -/
def timed (bed : Testbed (StateM σ) ω) (readings : Nat → Nat) : Testbed (StateM (σ × Nat)) ω where
  session := bed.session.lift onFirst
  printLine line := onFirst (bed.printLine line)
  now := fun s => (readings s.2, (s.1, s.2 + 1))
  wallClock := onFirst bed.wallClock
  pause d := onFirst (bed.pause d)
  progress := bed.progress.map fun bar => {
    advance := fun n => onFirst (bar.advance n)
    finish := onFirst bar.finish }

/-- Any readings that never go back tell time. So what follows from telling
time is not only about one clock. -/
theorem tellsTime_timed (bed : Testbed (StateM σ) ω) {readings : Nat → Nat}
    (h : ∀ n, readings n ≤ readings (n + 1)) : TellsTime (timed bed readings) fun s => readings s.2 where
  told s := ⟨Nat.le_refl _, h s.2⟩
  wallClock s := Nat.le_refl _
  paused d s := Nat.le_refl _
  printed line s := Nat.le_refl _
  prepared batch s := Nat.le_refl _
  operated object op s := Nat.le_refl _
  advanced bar hbar n s := by
    obtain ⟨bar, -, rfl⟩ := Option.map_eq_some_iff.mp hbar
    exact Nat.le_refl _
  finished bar hbar s := by
    obtain ⟨bar, -, rfl⟩ := Option.map_eq_some_iff.mp hbar
    exact Nat.le_refl _

/-! ### What a part of a run leads to -/

/-- From where `P` holds, a part of a run ends where `Q` holds of its
result, or fails where `E` holds of the failure. -/
def Leads (P : Performance → σ → Prop) (x : RunM (StateM σ) α) (Q : α → Performance → σ → Prop)
    (E : RunError → Performance → σ → Prop) : Prop :=
  ∀ p s, P p s → match exec x p s with
    | (.ok a, p, s) => Q a p s
    | (.error e, p, s) => E e p s

section

variable {P : Performance → σ → Prop} {Q : α → Performance → σ → Prop}
  {R : β → Performance → σ → Prop} {E : RunError → Performance → σ → Prop}

/-- Parts of a run lead on from one to the next. A failure in either leads
to the same end. -/
theorem Leads.bind {x : RunM (StateM σ) α} {f : α → RunM (StateM σ) β} (hx : Leads P x Q E)
    (hf : ∀ a, Leads (Q a) (f a) R E) : Leads P (x >>= f) R E := by
  intro p s h
  have hleads := hx p s h
  rw [exec_bind]
  rcases hexec : exec x p s with ⟨e | a, p', s'⟩ <;> rw [hexec] at hleads
  · exact hleads
  · exact hf a p' s' hleads

/-- Nothing leads to what holds already. -/
theorem Leads.pure {Q : α → Performance → σ → Prop} (a : α) : Leads (Q a) (pure a) Q E :=
  fun _ _ h => h

/-- What is done in the surroundings leads where it always leads. It can't
fail as a part of the run. -/
theorem Leads.outside {act : StateM σ α} (h : ∀ p s, P p s → Q (act.run s).1 p (act.run s).2) :
    Leads P (outside act) Q E :=
  h

/-- A change of the measurements leads to what holds of them afterwards. -/
theorem Leads.measure {Q : Performance → σ → Prop} {change : Performance → Performance}
    (h : ∀ p s, P p s → Q (change p) s) :
    Leads P (modifyThe Performance change) (fun _ => Q) E :=
  h

/-- A result that may be a failure leads to either. -/
theorem Leads.orEnd {ε : Type} {err : ε → RunError} {r : Except ε α}
    (hok : ∀ a p s, r = .ok a → P p s → Q a p s) (herror : ∀ e p s, r = .error e → P p s → E (err e) p s) :
    Leads P (orEnd err r) Q E := by
  intro p s h
  rw [exec_orEnd]
  cases r with
  | ok a => exact hok a p s rfl h
  | error e => exact herror e p s rfl h

end

section

variable {bed : Testbed (StateM σ) ω} {P Q : Performance → σ → Prop}
  {E : RunError → Performance → σ → Prop}

/-- Starting a clock takes a reading and then changes the measurements. -/
theorem leads_startClock {phase : Phase}
    (h : ∀ p s, P p s → Q (p.start phase (bed.now.run s).1) (bed.now.run s).2) :
    Leads P (startClock bed phase) (fun _ => Q) E := by
  intro p s hp
  rw [exec_startClock]
  exact h p s hp

/-- Stopping one does the same. -/
theorem leads_stopClock {phase : Phase}
    (h : ∀ p s, P p s → Q (p.stop phase (bed.now.run s).1) (bed.now.run s).2) :
    Leads P (stopClock bed phase) (fun _ => Q) E := by
  intro p s hp
  rw [exec_stopClock]
  exact h p s hp

/-- What printing a line keeps, printing pairs does, also if it fails. -/
theorem leads_printPairs (hprint : ∀ line p s, P p s → P p ((bed.printLine line).run s).2)
    (herror : ∀ e p s, P p s → E (.output e) p s) (pairs : List Pair) :
    Leads P (printPairs bed pairs) (fun _ => P) E := by
  induction pairs with
  | nil => exact Leads.pure (Q := fun _ => P) ()
  | cons pair pairs ih =>
    refine Leads.bind (Q := fun _ => P) (Leads.outside (hprint _)) fun result => ?_
    exact Leads.bind (Leads.orEnd (Q := fun _ => P) (fun _ _ _ _ h => h) fun e p s _ => herror e p s)
      fun _ => ih

end

/-! ### The clocks during a run -/

/-- The clocks at a moment of a run: that of the run goes, of the others
only the `active` one does, and together they don't read more. -/
structure Nested (settings : Settings) (active : Option Phase) (p : Performance) (t : Nat) : Prop where
  running : ∃ began ≤ t, (p.clocks.get .run).started = some began
  standing : ∀ phase ≠ .run, active ≠ some phase → (p.clocks.get phase).started = none
  sum : p.phasesTime t ≤ p.timeOf .run t
  unpaused : settings.thinkTime.isZero → p.clocks.get .think = .idle

/-- The clocks between runs: all stand still, and those of the phases
don't read more than that of the run. -/
structure AtRest (settings : Settings) (p : Performance) : Prop where
  standing : ∀ phase, (p.clocks.get phase).started = none
  sum : ∀ now, p.phasesTime now ≤ p.timeOf .run now
  unpaused : settings.thinkTime.isZero → p.clocks.get .think = .idle

variable {settings : Settings} {p : Performance} {t : Nat}

/-- Before the first run no clock was ever started, and nothing has been
added up. -/
theorem atRest_empty (settings : Settings) : AtRest settings .empty where
  standing phase := by
    show (Clocks.empty.get phase).started = none
    rw [Clocks.get_empty]
    rfl
  sum now := by
    have hzero (phase : Phase) : Performance.empty.timeOf phase now = 0 := by
      show ((Clocks.empty.get phase).read now).nanoseconds = 0
      rw [Clocks.get_empty]
      rfl
    simp [Performance.phasesTime, hzero]
  unpaused _ := Clocks.get_empty _

namespace Nested

/-- While time goes on, the phases gain no more than the run, since no
two of their clocks go. -/
theorem advance {active : Option Phase} (h : Nested settings active p t) {now : Nat} (hnow : t ≤ now) :
    Nested settings active p now := by
  obtain ⟨began, hbegan, hstarted⟩ := h.running
  refine ⟨⟨began, Nat.le_trans hbegan hnow, hstarted⟩, h.standing, ?_, h.unpaused⟩
  have hrun := Performance.timeOf_of_running hstarted hbegan hnow
  have hgain (phase : Phase) (hphase : phase ≠ .run) : p.timeOf phase now ≤
      p.timeOf phase t + if active = some phase then now - t else 0 := by
    split
    · exact p.timeOf_le_add phase t now
    · next hother =>
      rw [Performance.timeOf_of_standing (h.standing phase hphase hother) t now]
      exact Nat.le_add_right ..
  have hgeneration := hgain .generation (by decide)
  have hsubmission := hgain .submission (by decide)
  have hthink := hgain .think (by decide)
  have hsum := h.sum
  unfold Performance.phasesTime at hsum ⊢
  rcases active with _ | _ | _ | _ | _ <;>
    simp only [Option.some.injEq, reduceCtorEq, if_true, if_false] at hgeneration hsubmission hthink <;>
    omega

/-- One of the phases may begin if no other one goes on. The clock for
pauses is only started by settings that ask for them. -/
theorem start (h : Nested settings none p t) {phase : Phase} (hphase : phase ≠ .run)
    (hpause : phase = .think → ¬ settings.thinkTime.isZero) :
    Nested settings (some phase) (p.start phase t) t where
  running := by
    rw [p.get_start_of_ne hphase]
    exact h.running
  standing other hother hne := by
    rw [p.get_start_of_ne fun he => hne (congrArg some he)]
    exact h.standing other hother (by simp)
  sum := by
    rw [p.phasesTime_start, p.timeOf_start]
    exact h.sum
  unpaused hzero := by
    rw [p.get_start_of_ne fun he => hpause he hzero]
    exact h.unpaused hzero

/-- A phase that ends leaves the run by itself. What it has gained, the
clock of the run has gained, too. -/
theorem stop {phase : Phase} (h : Nested settings (some phase) p t) (hphase : phase ≠ .run) :
    Nested settings none (p.stop phase t) t where
  running := by
    rw [p.get_stop_of_ne hphase]
    exact h.running
  standing other hother _ :=
    Performance.standing_stop (fun he => h.standing other hother fun ha => he (Option.some.inj ha)) t
  sum := by
    rw [p.phasesTime_stop, p.timeOf_stop]
    exact h.sum
  unpaused hzero := by
    by_cases he : phase = .think
    · subst he
      show (p.clocks.stop .think t).get .think = .idle
      rw [Clocks.get_stop_self, h.unpaused hzero]
      rfl
    · rw [p.get_stop_of_ne he, h.unpaused hzero]

/-- Counting a batch has nothing to do with clocks. -/
theorem countBatch {active : Option Phase} (h : Nested settings active p t) (pairs valueBytes : Nat) :
    Nested settings active (p.countBatch pairs valueBytes) t :=
  ⟨h.running, h.standing, h.sum, h.unpaused⟩

end Nested

/-- A run begins with its own clock. What earlier runs have added up stays,
for both the run and its phases. -/
theorem AtRest.start (h : AtRest settings p) (t : Nat) : Nested settings none (p.start .run t) t where
  running := by
    refine ⟨t, Nat.le_refl t, ?_⟩
    show ((p.clocks.start .run t).get .run).started = some t
    rw [Clocks.get_start_self, Stopwatch.start, h.standing]
  standing phase hphase _ := by
    rw [p.get_start_of_ne (Ne.symm hphase)]
    exact h.standing phase
  sum := by
    rw [p.phasesTime_start, p.timeOf_start]
    exact h.sum t
  unpaused hzero := by
    rw [p.get_start_of_ne (by decide)]
    exact h.unpaused hzero

/-- And ends with it. No phase goes on then, so all clocks are at rest. -/
theorem Nested.atRest_stop (h : Nested settings none p t) : AtRest settings (p.stop .run t) := by
  have hstanding (phase : Phase) : ((p.stop .run t).clocks.get phase).started = none :=
    Performance.standing_stop (fun he => h.standing phase (Ne.symm he) (by simp)) t
  refine ⟨hstanding, fun now => ?_, fun hzero => ?_⟩
  · -- What stands still reads the same at any moment.
    have hsum := h.sum
    rw [← p.phasesTime_stop .run, ← p.timeOf_stop .run] at hsum
    unfold Performance.phasesTime at hsum ⊢
    simpa only [Performance.timeOf_of_standing (hstanding _) t now] using hsum
  · rw [p.get_stop_of_ne (by decide), h.unpaused hzero]

/-! ### Batches -/

section

variable {bed : Testbed (StateM σ) ω} {time : σ → Nat} {E : RunError → Performance → σ → Prop}

/-- The clocks at the moment that the surroundings are at. This is what is
kept from step to step of a run. -/
def NestedAt (settings : Settings) (time : σ → Nat) (active : Option Phase) (p : Performance) (s : σ) :
    Prop :=
  Nested settings active p (time s)

/-- Time may pass. Whatever runs goes on, and the sum of the phases doesn't
get ahead. -/
theorem NestedAt.later {active : Option Phase} {s s' : σ} (h : NestedAt settings time active p s)
    (htime : time s ≤ time s') : NestedAt settings time active p s' :=
  h.advance htime

namespace TellsTime

/-- The clock of a phase is started while no other one goes. -/
theorem leads_start (h : TellsTime bed time) {phase : Phase} (hphase : phase ≠ .run)
    (hpause : phase = .think → ¬ settings.thinkTime.isZero) :
    Leads (NestedAt settings time none) (startClock bed phase)
      (fun _ => NestedAt settings time (some phase)) E :=
  leads_startClock fun _ s hp =>
    (((hp.advance (h.told s).1).start hphase hpause).advance (h.told s).2)

/-- And stopped before another one is. -/
theorem leads_stop (h : TellsTime bed time) {phase : Phase} (hphase : phase ≠ .run) :
    Leads (NestedAt settings time (some phase)) (stopClock bed phase)
      (fun _ => NestedAt settings time none) E :=
  leads_stopClock fun _ s hp =>
    (((hp.advance (h.told s).1).stop hphase).advance (h.told s).2)

/-- Time doesn't go back while a batch is submitted. -/
theorem le_submit (h : TellsTime bed time) (object : String) (offset : Nat) (batch : Batch) (s : σ) :
    time s ≤ time ((submit bed object offset batch).run s).2 := by
  have hprepared := h.prepared batch s
  rw [run_submit]
  rcases hrun : (bed.session.prepare batch).run s with ⟨e | op, s'⟩ <;> rw [hrun] at hprepared
  · exact hprepared
  · exact Nat.le_trans hprepared (h.operated object op s')

/-- Showing progress takes time, but no phase is going on then. -/
theorem leads_advanceProgress (h : TellsTime bed time) (pairs : Nat) :
    Leads (NestedAt settings time none) (advanceProgress bed pairs)
      (fun _ => NestedAt settings time none) E := by
  unfold advanceProgress
  split
  next bar hbar => exact Leads.outside fun _ s hp => hp.later (h.advanced bar hbar pairs s)
  next => exact Leads.pure (Q := fun _ => NestedAt settings time none) ()

/-- A pause has a phase of its own, which has ended when the run goes on.
Settings without pauses don't even start its clock. -/
theorem leads_think (h : TellsTime bed time) :
    Leads (NestedAt settings time none) (think bed settings.thinkTime)
      (fun _ => NestedAt settings time none) E := by
  unfold think
  split
  next => exact Leads.pure (Q := fun _ => NestedAt settings time none) ()
  next hpause =>
    refine (h.leads_start (by decide) fun _ => hpause).bind fun _ => ?_
    refine Leads.bind (Q := fun _ => NestedAt settings time (some .think)) ?_ fun _ =>
      h.leads_stop (by decide)
    exact Leads.outside fun _ s hp => hp.later (h.paused _ s)

/-- Whatever becomes of a batch, behind it the clock of the run goes by
itself. -/
theorem leads_writeBatch (h : TellsTime bed time) (object : String) (offset : Nat) :
    Leads (NestedAt settings time none) (writeBatch bed settings object offset)
      (fun _ => NestedAt settings time none) (fun _ => NestedAt settings time none) := by
  unfold writeBatch
  refine (h.leads_start (by decide) (by simp)).bind fun _ => ?_
  refine (h.leads_stop (by decide)).bind fun _ => ?_
  refine Leads.bind (Q := fun _ => NestedAt settings time none)
    (Leads.orEnd (fun _ _ _ _ hp => hp) fun _ _ _ _ hp => hp) fun batch => ?_
  -- Printing takes its time, but belongs to no phase.
  have hprint : Leads (NestedAt settings time none) (printPairs bed batch.pairs)
      (fun _ => NestedAt settings time none) (fun _ => NestedAt settings time none) :=
    leads_printPairs (fun line _ s hp => hp.later (h.printed line s)) (fun _ _ _ hp => hp) batch.pairs
  have hsubmit : Leads (NestedAt settings time none) (do
      startClock bed .submission
      let written ← outside (submit bed object offset batch)
      stopClock bed .submission
      orEnd id written
      modifyThe Performance fun p => p.countBatch batch.size batch.valueBytes
      advanceProgress bed batch.size
      think bed settings.thinkTime)
      (fun _ => NestedAt settings time none) (fun _ => NestedAt settings time none) := by
    refine (h.leads_start (by decide) (by simp)).bind fun _ => ?_
    refine Leads.bind (Q := fun _ => NestedAt settings time (some .submission))
      (Leads.outside fun _ s hp => hp.later (h.le_submit object offset batch s)) fun written => ?_
    refine (h.leads_stop (by decide)).bind fun _ => ?_
    refine Leads.bind (Q := fun _ => NestedAt settings time none)
      (Leads.orEnd (fun _ _ _ _ hp => hp) fun _ _ _ _ hp => hp) fun _ => ?_
    refine Leads.bind (Q := fun _ => NestedAt settings time none)
      (Leads.measure fun _ _ hp => hp.countBatch ..) fun _ => ?_
    exact (h.leads_advanceProgress batch.size).bind fun _ => h.leads_think
  split
  · exact hprint.bind fun _ => hsubmit
  · exact hsubmit

end TellsTime

/-- Where nothing is looked at, nothing changes. -/
theorem quiet_const (bed : Testbed (StateM σ) ω) : Quiet bed fun _ => () where
  now _ := rfl
  wallClock _ := rfl
  pause _ _ := rfl
  advance _ _ _ _ := rfl
  finish _ _ _ := rfl

/-- The failures that come before a batch is submitted. At these the clock
for submissions hasn't been started for the batch. -/
def IsBeforeSubmission : RunError → Prop
  | .generate .. | .output .. => True
  | _ => False

/-- The failure of a submission comes after it began. -/
theorem not_isBeforeSubmission_of_submit {object : String} {offset : Nat} {batch : Batch} {s s' : σ}
    {e : RunError} (h : (submit bed object offset batch).run s = (.error e, s')) :
    ¬ IsBeforeSubmission e := by
  rw [run_submit] at h
  rcases hprepared : (bed.session.prepare batch).run s with ⟨e' | op, s₁⟩ <;> rw [hprepared] at h
  · cases h
    exact id
  · simp only at h
    rcases hresult : ((bed.session.operate object op).run s₁).1 with e' | _ <;> rw [hresult] at h <;>
      cases h
    exact id

/-- A batch that can't be made up or shown leaves the clock of submissions
alone. -/
theorem leads_writeBatch_unsubmitted (bed : Testbed (StateM σ) ω) (settings : Settings)
    (object : String) (offset : Nat) (w : Stopwatch) :
    Leads (fun p _ => p.clocks.get .submission = w) (writeBatch bed settings object offset)
      (fun _ _ _ => True) (fun e p _ => IsBeforeSubmission e → p.clocks.get .submission = w) := by
  unfold writeBatch
  refine Leads.bind (Q := fun _ p _ => p.clocks.get .submission = w)
    (leads_startClock fun p s hp => (p.get_start_of_ne (by decide) _).trans hp) fun _ => ?_
  refine Leads.bind (Q := fun _ p _ => p.clocks.get .submission = w)
    (leads_stopClock fun p s hp => (p.get_stop_of_ne (by decide) _).trans hp) fun _ => ?_
  refine Leads.bind (Q := fun _ p _ => p.clocks.get .submission = w)
    (Leads.orEnd (fun _ _ _ _ hp => hp) fun _ _ _ _ hp _ => hp) fun batch => ?_
  have hprint : Leads (fun p _ => p.clocks.get .submission = w) (printPairs bed batch.pairs)
      (fun _ p _ => p.clocks.get .submission = w)
      (fun e p (_ : σ) => IsBeforeSubmission e → p.clocks.get .submission = w) :=
    leads_printPairs (fun _ _ _ hp => hp) (fun _ _ _ hp _ => hp) batch.pairs
  have hsubmit : Leads (fun p _ => p.clocks.get .submission = w) (do
      startClock bed .submission
      let written ← outside (submit bed object offset batch)
      stopClock bed .submission
      orEnd id written
      modifyThe Performance fun p => p.countBatch batch.size batch.valueBytes
      advanceProgress bed batch.size
      think bed settings.thinkTime)
      (fun _ _ _ => True) (fun e p (_ : σ) => IsBeforeSubmission e → p.clocks.get .submission = w) := by
    refine Leads.bind (Q := fun _ _ _ => True) (leads_startClock fun _ _ _ => trivial) fun _ => ?_
    -- From here on only the result of the submission can end the batch.
    refine Leads.bind (Q := fun written _ _ => ∀ e, written = .error e → ¬ IsBeforeSubmission e)
      (Leads.outside fun p s _ e he =>
        not_isBeforeSubmission_of_submit (Prod.ext he rfl)) fun written => ?_
    refine Leads.bind (Q := fun _ _ _ => ∀ e, written = .error e → ¬ IsBeforeSubmission e)
      (leads_stopClock fun _ _ hp => hp) fun _ => ?_
    refine Leads.bind (Q := fun _ _ _ => True)
      (Leads.orEnd (fun _ _ _ _ _ => trivial) fun e _ _ he hp hbefore => absurd hbefore (hp e he))
      fun _ p s _ => ?_
    obtain ⟨p', s', hafter, -⟩ := exec_afterwards settings (quiet_const bed) batch p s
    rw [hafter]
    trivial
  split
  · exact hprint.bind fun _ => hsubmit
  · exact hsubmit

end

/-! ### Runs -/

section

variable {bed : Testbed (StateM σ) ω} {time : σ → Nat}

/-- What every step of a loop keeps, also if it fails, the loop keeps. The
induction is on the offsets. -/
theorem leads_forM {P : Performance → σ → Prop} {f : Nat → RunM (StateM σ) Unit}
    (h : ∀ offset, Leads P (f offset) (fun _ => P) (fun _ => P)) (offsets : List Nat) :
    Leads P (offsets.forM f) (fun _ => P) (fun _ => P) := by
  induction offsets with
  | nil => exact Leads.pure (Q := fun _ => P) ()
  | cons offset offsets ih => exact (h offset).bind fun _ => ih

/-- A run that begins with its clocks at rest ends with its clocks at
rest, whatever happens in it. -/
theorem atRest_perform (h : TellsTime bed time) (object : String) (hp : AtRest settings p) (s : σ) :
    AtRest settings (((perform bed settings object).run p).run s).1.2 := by
  have hbegin : NestedAt settings time none (p.start .run (bed.now.run (bed.wallClock.run s).2).1)
      (bed.now.run (bed.wallClock.run s).2).2 :=
    (hp.start _).advance (h.told _).2
  have hbatch (offset : Nat) : Leads (NestedAt settings time none) (writeBatch bed settings object offset)
      (fun _ => NestedAt settings time none) (fun _ => NestedAt settings time none) :=
    h.leads_writeBatch object offset
  have hloop := leads_forM hbatch settings.offsets.toList _ _ hbegin
  rw [← writeFrom_eq_forM] at hloop
  rw [run_perform]
  dsimp only
  generalize exec (writeFrom bed settings object settings.offsets) _ _ = q at hloop ⊢
  obtain ⟨r, q, s'⟩ := q
  -- The clock of the run is stopped before the result is looked at.
  have hend : NestedAt settings time none q s' := by cases r <;> exact hloop
  obtain ⟨s'', hfinish, -⟩ := run_finishProgress (quiet_const bed) (q.stop .run (bed.now.run s').1)
    (bed.wallClock.run (bed.now.run s').2).2
  rw [hfinish]
  exact (hend.advance (h.told s').1).atRest_stop

/-- Runs of the same settings one after another, each in surroundings of
its own. The measurements go on from run to run. -/
def performAll (settings : Settings) (object : String) (beds : List (Testbed (StateM σ) ω)) :
    StateT Performance (StateM σ) (List (Except RunError Elapsed)) :=
  beds.mapM fun bed => perform bed settings object

/-- No runs leave everything as it is. -/
theorem run_performAll_nil (object : String) (p : Performance) (s : σ) :
    ((performAll settings object ([] : List (Testbed (StateM σ) ω))).run p).run s = (([], p), s) := by
  rw [performAll, List.mapM_nil]
  rfl

/-- The first run is done first, and the others go on with its measurements,
also if it failed. -/
theorem run_performAll_cons (object : String) (beds : List (Testbed (StateM σ) ω)) (p : Performance)
    (s : σ) :
    ((performAll settings object (bed :: beds)).run p).run s =
      let first := ((perform bed settings object).run p).run s
      let others := ((performAll settings object beds).run first.1.2).run first.2
      ((first.1.1 :: others.1.1, others.1.2), others.2) := by
  rw [performAll, List.mapM_cons]
  rfl

/-- As often as a run is done again, it ends with the clocks at rest. So
each run begins as the first one did. -/
theorem atRest_performAll (object : String) {beds : List (Testbed (StateM σ) ω)}
    (h : ∀ bed ∈ beds, TellsTime bed time) (hp : AtRest settings p) (s : σ) :
    AtRest settings (((performAll settings object beds).run p).run s).1.2 := by
  induction beds generalizing p s with
  | nil =>
    rw [run_performAll_nil]
    exact hp
  | cons bed beds ih =>
    rw [List.forall_mem_cons] at h
    rw [run_performAll_cons]
    exact ih h.2 (atRest_perform h.1 object hp s) _

/-- The clocks of runs in these surroundings are balanced, with these
measurements behind the last of them. -/
structure Balanced (settings : Settings) (object : String) (beds : List (Testbed (StateM σ) ω))
    (p : Performance) : Prop where
  /-- No clock runs. -/
  standing : ∀ phase, (p.clocks.get phase).started = none
  /-- The phases didn't take longer than the runs. -/
  within : ∀ now, (p.clocks.read .generation now).nanoseconds + (p.clocks.read .submission now).nanoseconds +
    (p.clocks.read .think now).nanoseconds ≤ (p.clocks.read .run now).nanoseconds
  /-- Without a pause between batches, no time was spent on pauses. -/
  unpaused : settings.thinkTime = .zero → ∀ now, p.clocks.read .think now = .zero
  /-- A batch that can't be made up or printed takes no time to submit,
  wherever it comes. -/
  unsubmitted : ∀ bed ∈ beds, ∀ offset e, IsBeforeSubmission e → ∀ before s after s',
    exec (writeBatch bed settings object offset) before s = (.error e, after, s') →
      ∀ now, after.clocks.read .submission now = before.clocks.read .submission now

/-- After any number of runs, in surroundings where anything may fail as
long as time doesn't go back, the clocks are balanced. -/
theorem balanced_performAll (settings : Settings) (object : String)
    {beds : List (Testbed (StateM σ) ω)} {time : σ → Nat} (h : ∀ bed ∈ beds, TellsTime bed time)
    (s : σ) :
    Balanced settings object beds (((performAll settings object beds).run .empty).run s).1.2 := by
  have hrest := atRest_performAll object h (atRest_empty settings) s
  refine ⟨hrest.standing, hrest.sum, fun hzero now => ?_, ?_⟩
  · rw [Clocks.read, hrest.unpaused (by rw [hzero]; rfl)]
    rfl
  · intro bed _ offset e hbefore before s after s' hexec now
    have hleads := leads_writeBatch_unsubmitted bed settings object offset
      (before.clocks.get .submission) before s rfl
    rw [hexec] at hleads
    unfold Clocks.read
    rw [hleads hbefore]

/-- Two runs on a clock that goes on by ten at each reading. The second
batch of the first run isn't stored, which ends that run. -/
theorem balanced_performAll_twice :
    let settings : Settings := ⟨2, 6, 1, false, ⟨5⟩, by decide, by decide, by decide, by decide⟩
    let bed := timed (Surroundings.still.testbed remembering) fun n => 10 * n
    let start := ((((fun _ => none, [none, some .closed]), ()), 0) :
      (((String → Option (List UInt8)) × List (Option SessionError)) × Unit) × Nat)
    (∀ bed' ∈ [bed, bed], TellsTime bed' fun s => 10 * s.2) ∧
      (((performAll settings "hw" [bed, bed]).run .empty).run start).1.1.map Except.isOk = [false, true] ∧
      Balanced settings "hw" [bed, bed]
        (((performAll settings "hw" [bed, bed]).run .empty).run start).1.2 := by
  intro settings bed start
  have htime : TellsTime bed fun s => 10 * s.2 := tellsTime_timed _ fun n => by omega
  have hall : ∀ bed' ∈ [bed, bed], TellsTime bed' fun s => 10 * s.2 := by
    simpa using htime
  refine ⟨hall, ?_, balanced_performAll settings "hw" hall start⟩
  simp only [run_performAll_cons, run_performAll_nil, run_perform, writeFrom_eq_forM,
    settings.toList_offsets]
  decide +kernel

end

end Run

end MapBench
