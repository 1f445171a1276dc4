import MapBench.Proofs.Client.Stages

/-!
# `MapBench.Proofs.Client.Shown`: what shows when the benchmark stops

Whoever runs the benchmark sees its output and its complaints, and on a
terminal what a display of progress draws. The log may get in between: it
can lead to the output or to the complaints, and a full device makes the
program complain. With any other log, what shows can be told from how far
the program got.

* `Machine.still`: what is drawn, as far as no display draws it.
* `Client.harmless_closing`: what is left to do when the run is over can't
  fail, and does no harm.
* `Client.Stops.told`: what has been printed where the program stops.
  `Client.Succeeds.printed`: what has been printed if it doesn't.
* `Client.Stops.still`, `Client.Succeeds.still`: only a display draws.
* `Client.Stops.exists_begins`: which log is open where it stops.
-/

set_option autoImplicit false

namespace MapBench

variable {ω : Type}

/-! ### What is drawn -/

namespace Machine

variable {options : ClientOptions} {m m' : Machine ω}

/-- What is drawn, as far as no display draws it. If progress is asked for,
that is only whether there is a terminal at all. -/
def still (options : ClientOptions) (m : Machine ω) : Option (Option Screen) :=
  m.screen.map fun s => if options.progress then none else some s

/-- If the screen is the same, so is what is drawn apart from a display. -/
theorem still_of_screen (h : m'.screen = m.screen) : m'.still options = m.still options := by
  rw [still, still, h]

/-- Nothing is drawn unless progress is asked for, and there is a terminal
to draw it on. -/
theorem screen_of_still (h : m'.still options = m.still options)
    (hnone : options.progress = false ∨ m.screen = none) : m'.screen = m.screen := by
  rw [still, still] at h
  rcases hnone with hprogress | hscreen
  · simp only [hprogress, Bool.false_eq_true, if_false] at h
    exact Option.map_injective (Option.some_injective _) h
  · rw [hscreen] at h ⊢
    exact Option.map_eq_none_iff.mp h

/-- Drawing is what a display is asked for, so it isn't counted as something
else. -/
theorem still_draw (hprogress : options.progress = true) (position goal : Screen → Nat)
    (m : Machine ω) : ((draw position goal).run m).2.still options = m.still options := by
  change (m.screen.map _).map _ = m.screen.map _
  rw [Option.map_map]
  simp only [Function.comp_def, hprogress, if_true]

/-- Putting up a display is drawing, too. -/
theorem still_displaying (m : Machine ω) (options : ClientOptions) (settings : Settings) :
    (m.displaying options settings).still options = m.still options := by
  rw [displaying]
  split
  next hprogress => exact still_draw hprogress _ _ m
  next => rfl

/-- So nothing that a display does is looked at here. -/
theorem overlooks_still (options : ClientOptions) (settings : Settings) :
    Overlooks (still options)
      (Client.displayOf options settings : Option (ProgressBar (StateM (Machine ω)))) := by
  intro bar hbar m
  rw [Client.displayOf, Option.mem_def] at hbar
  split at hbar
  next hprogress =>
    cases hbar
    exact ⟨fun _ => still_draw hprogress _ _ m, still_draw hprogress _ _ m⟩
  next => cases hbar

end Machine

namespace Run

variable {net : Network (StateM ω)} {session : Session} {object : String} {m m' : Machine ω}

/-- What is done to the world is done to nothing else on the machine. -/
theorem exists_of_onWorld {α : Type} {act : StateM (World ω) α} {a : α}
    (h : (Machine.onWorld act).run m = (a, m')) : ∃ world, m' = { m with world } := by
  obtain ⟨-, rfl⟩ := Prod.mk.inj h
  exact ⟨_, rfl⟩

/-- A setup works on the world only, also if it fails. -/
theorem exists_of_setup {r : Except RunError Unit}
    (h : (setup ((Machine.clientHost net).storage session) object).run m = (r, m')) :
    ∃ world, m' = { m with world } := by
  rw [setup, StateT.run_bind] at h
  rcases hremove : (((Machine.clientHost net).storage session).removeObject object).run m with
    ⟨e | _, m₁⟩ <;> rw [hremove] at h
  · cases h
    exact exists_of_onWorld hremove
  · change (((Machine.clientHost net).storage session).writeObject object setupPayload >>= _).run
      m₁ = _ at h
    rw [StateT.run_bind] at h
    obtain ⟨_, rfl⟩ := exists_of_onWorld hremove
    rcases hwrite : (((Machine.clientHost net).storage session).writeObject object
      setupPayload).run _ with ⟨e | _, m₂⟩ <;> rw [hwrite] at h <;> cases h <;>
    · obtain ⟨world, rfl⟩ := exists_of_onWorld hwrite
      exact ⟨world, rfl⟩

/-- In a run, only the display draws. Lines that are printed aren't drawn. -/
theorem still_perform {options : ClientOptions} {settings : Settings} {result : Except RunError Elapsed}
    {perf : Performance}
    (hrun : ((perform (bedOn net session (Client.displayOf options settings)) settings object).run
      .empty).run m = ((result, perf), m')) : m'.still options = m.still options := by
  have hquiet : Quiet (bedOn net session (Client.displayOf options settings)) (Machine.still options) :=
    quiet_bedOn (Machine.overlooks_still options settings) fun _ _ => rfl
  obtain ⟨_, _, _, s₁, s₂, n, hperform, hbegin, hloop, hend, -⟩ :=
    loopRun_perform settings object hquiet .empty m
  obtain ⟨-, rfl⟩ := Prod.mk.inj (hrun.symm.trans hperform)
  have hbetween := hloop.view_eq (fun _ _ => rfl) (fun _ _ => rfl) fun _ _ => rfl
  exact hend.trans (hbetween.trans hbegin)

end Run

namespace Client

variable {net : Network (StateM ω)} {options : ClientOptions} {m m' : Machine ω}

/-! ### When the run is over -/

/-- Nothing has changed that shows, except for lines of a log that isn't
apart from the rest, and every store is kept. -/
structure Unharmed (m m' : Machine ω) : Prop where
  log : m'.log? = m.log?
  screen : m'.screen = m.screen
  apparent : m.LogsApart → m'.apparent = m.apparent
  keeps : m.world.disk.Keeps m'.world.disk

namespace Unharmed

/-- Doing nothing does no harm. -/
theorem refl (m : Machine ω) : Unharmed m m :=
  ⟨rfl, rfl, fun _ => rfl, .refl _⟩

/-- A log that is apart stays so. -/
theorem logsApart (h : Unharmed m m') (hapart : m.LogsApart) : m'.LogsApart := by
  rw [Machine.LogsApart, h.log]
  exact hapart

/-- One harmless thing after another does no harm. -/
theorem trans {m'' : Machine ω} (h : Unharmed m m') (h' : Unharmed m' m'') : Unharmed m m'' where
  log := h'.log.trans h.log
  screen := h'.screen.trans h.screen
  apparent hapart := (h'.apparent (h.logsApart hapart)).trans (h.apparent hapart)
  keeps := h.keeps.trans h'.keeps

/-- A line in the log does no harm, wherever the log leads. What it adds
there is taken into account. -/
theorem logged (m : Machine ω) (line : String) : Unharmed m (m.logged line) where
  log := m.log?_logged line
  screen := m.screen_logged line
  apparent hapart := Machine.apparent_logged hapart line
  keeps := m.keeps_log line

end Unharmed

/-- A part of the program that can't fail and does no harm. That can be said
of such parts one by one. -/
def Harmless {α : Type} (x : ExceptT ClientError (StateM (Machine ω)) α) : Prop :=
  ∀ m : Machine ω, ∃ a m', outcome x m = (.ok a, m') ∧ Unharmed m m'

namespace Harmless

variable {α β : Type}

/-- Doing nothing is harmless. -/
theorem pure (a : α) : Harmless (Pure.pure a : ExceptT ClientError (StateM (Machine ω)) α) :=
  fun m => ⟨a, m, rfl, .refl m⟩

/-- Harmless parts are harmless together, since the first can't keep the
second from its turn. -/
theorem bind {x : ExceptT ClientError (StateM (Machine ω)) α}
    {f : α → ExceptT ClientError (StateM (Machine ω)) β} (hx : Harmless x) (hf : ∀ a, Harmless (f a)) :
    Harmless (x >>= f) := by
  intro m
  obtain ⟨a, m₁, hfirst, hunharmed⟩ := hx m
  obtain ⟨b, m₂, hsecond, hunharmed'⟩ := hf a m₁
  exact ⟨b, m₂, (outcome_bind_ok hfirst).trans hsecond, hunharmed.trans hunharmed'⟩

/-- Something that can't fail is harmless if it does no harm. -/
theorem lift {act : StateM (Machine ω) α} (h : ∀ m, Unharmed m (act.run m).2) :
    Harmless (ExceptT.lift act) :=
  fun m => ⟨_, _, rfl, h m⟩

/-- So is a line in the log. -/
theorem log (net : Network (StateM ω)) (line : String) :
    Harmless (ExceptT.lift ((Machine.clientHost net).log line)) :=
  .lift fun m => .logged m line

end Harmless

/-- Counting a map does no harm, also if it fails. The failure is only told
in the log. -/
theorem harmless_logMapSize (net : Network (StateM ω)) (session : Session) (object : String) :
    Harmless (ExceptT.lift (logMapSize (Machine.clientHost net) session object)) := by
  refine .lift fun m => ?_
  let counted := (session.storage (World.access net)).mapSize object
  have hcount : (((Machine.clientHost net).storage session).mapSize object).run m =
      ((counted.run m.world).1, { m with world := (counted.run m.world).2 }) := rfl
  have hkept : Unharmed m { m with world := (counted.run m.world).2 } := by
    have hdisk : (counted.run m.world).2.disk = m.world.disk :=
      session.leavesDisk_mapSize net object m.world
    refine ⟨rfl, rfl, fun _ => rfl, ?_⟩
    show m.world.disk.Keeps (counted.run m.world).2.disk
    rw [hdisk]
    exact .refl _
  rw [logMapSize, StateT.run_bind, hcount]
  refine hkept.trans ?_
  cases (counted.run m.world).1 <;> exact .logged _ _

/-- What is left to do when the run is over can't fail. So a run that
succeeded is a success of the program. -/
theorem harmless_closing (net : Network (StateM ω)) (session : Session) (config : ClusterConfig)
    (performance : Performance) : Harmless (closing net session config performance) := by
  have hnow : Harmless (ExceptT.lift (Machine.clientHost net).now) :=
    .lift fun _ => ⟨rfl, rfl, fun _ => rfl, .refl _⟩
  have hclose : Harmless (ExceptT.lift ((Machine.clientHost net).close session)) := .lift .refl
  have hreport (lines : List String) : Harmless (lines.forM fun line =>
      (ExceptT.lift ((Machine.clientHost net).log line) :
        ExceptT ClientError (StateM (Machine ω)) Unit)) := by
    induction lines with
    | nil => exact .pure ()
    | cons line lines ih => exact .bind (.log net line) fun _ => ih
  exact hnow.bind fun now => (hreport _).bind fun _ =>
    (harmless_logMapSize net session config.object).bind fun _ => hclose.bind fun _ => .log net _

/-! ### Opening the log -/

/-- A log that can't be opened leaves directories that were made for it, and
nothing else. -/
theorem openLog_error {path : String} {e : FileError}
    (h : (Machine.openLog path).run m = (.error e, m')) :
    ∃ tree, m' = m.setTree tree ∧ m.world.disk.tree.Grows tree := by
  have hgrows := m.world.disk.tree.grows_createDirectories ((Path.parent? path).getD "")
  simp only [Machine.openLog, StateT.run] at h
  split at h <;> cases h
  exact ⟨_, rfl, hgrows⟩

/-- Opening the log shows nowhere but in the log. Directories may have been
made for it. -/
theorem Begins.exists_opened {settings : Settings} {config : ClusterConfig} {opened : Machine ω}
    (h : Begins options m settings config opened) :
    ∃ tree log?, opened = { m.setTree tree with log? } := by
  have hlogs := h.logs
  simp only [Machine.openLog, StateT.run] at hlogs
  split at hlogs <;> cases hlogs
  exact ⟨_, _, rfl⟩

/-- So nothing has been printed, complained about or drawn by then. -/
theorem Begins.told {settings : Settings} {config : ClusterConfig} {opened : Machine ω}
    (h : Begins options m settings config opened) :
    opened.printed = m.printed ∧ opened.complaints = m.complaints ∧ opened.screen = m.screen := by
  obtain ⟨tree, log?, rfl⟩ := h.exists_opened
  exact ⟨rfl, rfl, rfl⟩

/-! ### What has been printed -/

/-- What follows is the summary. Before it is printed, the log has got its
first line. -/
theorem printed_begun {opened : Machine ω} (hapart : opened.LogsApart) (settings : Settings) :
    opened.Printed settings.summary (opened.begun settings) := by
  have hlogged := Machine.printed_of_apparent (Machine.apparent_logged hapart "omapbench starts")
  exact hlogged.trans (Machine.printed_prints _ _)

/-- The log that is open when the session is to be opened is the one that
was opened. -/
theorem log?_begun (opened : Machine ω) (settings : Settings) :
    (opened.begun settings).log? = opened.log? :=
  opened.log?_logged _

/-- Up to the setup, a session works on the world only. A display may have
been put up in between. -/
theorem apparent_connected {config : ClusterConfig} {settings : Settings}
    {e : Except SessionError Session}
    (h : ((Machine.clientHost net).connect config).run m = (e, m')) :
    (m'.displaying options settings).apparent = m.apparent := by
  obtain ⟨_, rfl⟩ := Run.exists_of_onWorld h
  obtain ⟨_, heq⟩ := Machine.exists_displaying _ options settings
  rw [heq]
  rfl

/-- A setup shows nowhere. -/
theorem apparent_setup {session : Session} {object : String} {r : Except RunError Unit}
    (h : (Run.setup ((Machine.clientHost net).storage session) object).run m = (r, m')) :
    m'.apparent = m.apparent := by
  obtain ⟨_, rfl⟩ := Run.exists_of_setup h
  rfl

/-- Settings that are accepted show pairs exactly if that is asked for. The
environment decides that, not the options. -/
theorem debug_of_accepted {debug : Bool} {settings : Settings} (h : options.settings debug = .ok settings) :
    settings.debug = debug := by
  have hcreate {operation : Operation} {b t v : Nat} {created : Settings}
      (h : Settings.create operation b t v debug = .ok created) : created.debug = debug := by
    rw [Settings.create.eq_def] at h
    repeat' split at h
    all_goals cases h
    rfl
  rw [ClientOptions.settings] at h
  rcases hmade : Settings.create options.operation options.batchSize options.totalPairs
    options.valueSize debug with e | created <;> rw [hmade] at h <;> cases h
  have hdebug : created.debug = debug := hcreate hmade
  exact hdebug

/-- A program whose stages all succeed has printed the lines of all pairs
that were planned since the session was to be opened. -/
theorem Succeeds.printed_since {p : Passage ω} (h : Succeeds net options m p) :
    (p.opened.begun p.settings).Printed (p.settings.debugLines 0 p.settings.plannedPairs) p.ended := by
  obtain ⟨count, -, hrun, hall⟩ :=
    Run.printed_perform (overlooks_displayOf (fun _ _ => rfl) options p.settings) h.runs
  rw [hall rfl] at hrun
  have hbegan := (apparent_setup h.setsUp).trans (apparent_connected h.connects)
  exact (Machine.printed_of_apparent hbegan).trans hrun

/-- Before that, it has printed the summary. The lines of a run are those of
all pairs, in order of their indexes. -/
theorem Succeeds.printed {p : Passage ω} (h : Succeeds net options m p) (hapart : p.opened.LogsApart) :
    p.opened.Printed (p.settings.summary ++ p.settings.debugLines 0 p.settings.plannedPairs) p.ended :=
  (printed_begun hapart p.settings).trans h.printed_since

/-- The log is still the one that was opened. -/
theorem Succeeds.log?_ended {p : Passage ω} (h : Succeeds net options m p) :
    p.ended.log? = p.opened.log? :=
  h.printed_since.log?.trans (log?_begun p.opened p.settings)

/-- The lines of a run that isn't over: none, or the summary and the lines of
the first pairs that were planned. -/
def IsBeginning (options : ClientOptions) (debug : Bool) (lines : List String) : Prop :=
  lines = [] ∨ ∃ settings count, options.settings debug = .ok settings ∧
    count ≤ settings.plannedPairs ∧ lines = settings.summary ++ settings.debugLines 0 count

/-- None of these lines tells an elapsed time. So an output without one is
that of a call that failed. -/
theorem IsBeginning.not_isElapsedLine {debug : Bool} {lines : List String}
    (h : IsBeginning options debug lines) :
    ∀ line ∈ lines, '\n' ∉ line.toList ∧ ¬ IsElapsedLine line := by
  intro line hline
  rcases h with rfl | ⟨settings, count, -, -, rfl⟩
  · cases hline
  · exact ⟨newline_notMem_of_mem hline, not_isElapsedLine_of_mem hline⟩

/-! ### Where the program stops -/

/-- Where the program stops, its log isn't open, or it has printed the
lines of the first pairs since the session was to be opened. -/
theorem Stops.cases_log {e : ClientError} (h : Stops net options m e m') :
    (∃ tree, m' = m.setTree tree) ∨ ∃ settings config opened, Begins options m settings config opened ∧
      ∃ count ≤ settings.plannedPairs,
        (opened.begun settings).Printed (settings.debugLines 0 count) m' ∧
        m'.still options = (opened.begun settings).still options := by
  -- Until the run begins, no pair has been shown.
  have hnone {settings : Settings} {began m' : Machine ω} (hsame : m'.apparent = began.apparent) :
      began.Printed (settings.debugLines 0 0) m' := by
    rw [settings.debugLines_zero]
    exact Machine.printed_of_apparent hsame
  cases h with
  | settings refused => exact .inl ⟨m.world.disk.tree, rfl⟩
  | config accepted refused => exact .inl ⟨m.world.disk.tree, rfl⟩
  | log accepted configured failed =>
    obtain ⟨tree, rfl, -⟩ := openLog_error failed
    exact .inl ⟨tree, rfl⟩
  | session begins failed =>
    refine .inr ⟨_, _, _, begins, 0, Nat.zero_le _, hnone (Run.apparent_of_onWorld failed), ?_⟩
    obtain ⟨_, rfl⟩ := Run.exists_of_onWorld failed
    exact Machine.still_of_screen rfl
  | setup begins connects failed =>
    refine .inr ⟨_, _, _, begins, 0, Nat.zero_le _,
      hnone ((apparent_setup failed).trans (apparent_connected connects)), ?_⟩
    obtain ⟨_, rfl⟩ := Run.exists_of_setup failed
    obtain ⟨_, rfl⟩ := Run.exists_of_onWorld connects
    exact Machine.still_displaying _ options _
  | run begins connects setsUp failed =>
    obtain ⟨count, hle, hrun, -⟩ :=
      Run.printed_perform (overlooks_displayOf (fun _ _ => rfl) options _) failed
    have hsame := (apparent_setup setsUp).trans (apparent_connected connects)
    refine .inr ⟨_, _, _, begins, count, hle, (Machine.printed_of_apparent hsame).trans hrun, ?_⟩
    rw [Run.still_perform failed]
    obtain ⟨_, rfl⟩ := Run.exists_of_setup setsUp
    obtain ⟨_, rfl⟩ := Run.exists_of_onWorld connects
    exact Machine.still_displaying _ options _

/-- Where the program stops, it hasn't complained yet, and has printed
nothing or the summary and the lines of the first pairs. -/
theorem Stops.told {e : ClientError} (h : Stops net options m e m') (hapart : m'.LogsApart) :
    m'.complaints = m.complaints ∧
      ∃ lines, m'.printed = m.printed ++ unlines lines ∧ IsBeginning options m.debugs lines := by
  obtain ⟨tree, rfl⟩ | ⟨settings, config, opened, begins, count, hle, hprinted, -⟩ := h.cases_log
  · exact ⟨rfl, [], String.append_empty.symm, .inl rfl⟩
  · have hopened : opened.LogsApart := by
      rw [Machine.LogsApart, ← log?_begun opened settings, ← hprinted.log?]
      exact hapart
    obtain ⟨htold, hcomplaints, -⟩ := begins.told
    have hall := (printed_begun hopened settings).trans hprinted
    exact ⟨hall.complaints.trans hcomplaints, _, hall.printed.trans (by rw [htold]),
      .inr ⟨settings, count, begins.accepted, hle, rfl⟩⟩

/-- The log that is open where the program stops is the one that the
configuration names. -/
theorem Stops.exists_begins {e : ClientError} (h : Stops net options m e m') (hfresh : m.log? = none)
    {target : LogTarget} (hlog : m'.log? = some target) :
    ∃ settings config opened, Begins options m settings config opened ∧ opened.log? = some target := by
  obtain ⟨tree, rfl⟩ | ⟨settings, config, opened, begins, count, -, hprinted, -⟩ := h.cases_log
  · have hnone : (m.setTree tree).log? = none := hfresh
    rw [hnone] at hlog
    cases hlog
  · refine ⟨settings, config, opened, begins, ?_⟩
    rw [← log?_begun opened settings, ← hprinted.log?, hlog]

/-! ### Only a display draws -/

/-- Up to the summary nothing is drawn at all. -/
theorem Begins.still_begun {settings : Settings} {config : ClusterConfig} {opened : Machine ω}
    (h : Begins options m settings config opened) : (opened.begun settings).still options = m.still options :=
  Machine.still_of_screen ((opened.screen_logged _).trans h.told.2.2)

/-- Where the program stops, only a display has drawn. -/
theorem Stops.still {e : ClientError} (h : Stops net options m e m') :
    m'.still options = m.still options := by
  obtain ⟨tree, rfl⟩ | ⟨settings, config, opened, begins, -, -, -, hstill⟩ := h.cases_log
  · rfl
  · exact hstill.trans begins.still_begun

/-- And so it is if it doesn't stop. -/
theorem Succeeds.still {p : Passage ω} (h : Succeeds net options m p) :
    p.ended.still options = m.still options := by
  obtain ⟨_, hemptied⟩ := Run.exists_of_setup h.setsUp
  obtain ⟨_, hconnected⟩ := Run.exists_of_onWorld h.connects
  calc p.ended.still options
    _ = p.emptied.still options := Run.still_perform h.runs
    _ = (p.connected.displaying options p.settings).still options := by rw [hemptied]; rfl
    _ = p.connected.still options := Machine.still_displaying _ _ _
    _ = (p.opened.begun p.settings).still options := by rw [hconnected]; rfl
    _ = m.still options := h.still_begun

end Client

end MapBench
