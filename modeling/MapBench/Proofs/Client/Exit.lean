import MapBench.Proofs.Client.Shown

/-!
# `MapBench.Proofs.Client.Exit`: how the benchmark exits

Whoever runs the benchmark learns from its exit status whether all went
well. The status, the output, the complaints and the store have to agree.

* `Client.Stops.world_of_not_begins`: what has happened to the world if the
  program stops before it opens a session.
* `Client.Succeeds.hasMap`: the map in the store file if it doesn't stop.
* `Client.Begins.exists_succeeds_iff`: with a store file that can be opened,
  it only stops where the store takes no more.
* `Client.Exits`: how a call ends. `Client.exits_execute`: every call with
  arguments that can be read ends so.
-/

set_option autoImplicit false

namespace MapBench.Client

variable {ω : Type} {net : Network (StateM ω)} {options : ClientOptions} {m m' : Machine ω}

/-! ### What has happened to the world -/

/-- The program that stops before its log is open has at most made
directories. -/
theorem Stops.world_of_not_begins {e : ClientError} (h : Stops net options m e m')
    (hnot : ∀ settings config opened, ¬ Begins options m settings config opened) :
    ∃ tree, m' = m.setTree tree ∧ m.world.disk.tree.Grows tree := by
  cases h with
  | settings refused => exact ⟨_, rfl, .refl _⟩
  | config accepted refused => exact ⟨_, rfl, .refl _⟩
  | log accepted configured failed => exact openLog_error failed
  | session begins failed => exact absurd begins (hnot _ _ _)
  | setup begins connects failed => exact absurd begins (hnot _ _ _)
  | run begins connects setsUp failed => exact absurd begins (hnot _ _ _)

/-- The program that stops at its settings or its configuration has changed
nothing. -/
theorem Stops.eq_of_refused {e : ClientError} (h : Stops net options m e m')
    (hnot : ∀ settings config, ¬ (options.settings m.debugs = .ok settings ∧
      m.clusterConfig options.config = .ok config)) : m' = m := by
  cases h with
  | settings refused => rfl
  | config accepted refused => rfl
  | log accepted configured failed => exact absurd ⟨accepted, configured⟩ (hnot _ _)
  | session begins failed => exact absurd ⟨begins.accepted, begins.configured⟩ (hnot _ _)
  | setup begins connects failed => exact absurd ⟨begins.accepted, begins.configured⟩ (hnot _ _)
  | run begins connects setsUp failed => exact absurd ⟨begins.accepted, begins.configured⟩ (hnot _ _)

/-- Reading is refused whatever else is asked for. -/
theorem refused_of_read (h : options.operation = .read) (debug : Bool) :
    options.settings debug = .error .readNotSupported := by
  rw [ClientOptions.settings, h]
  rfl

/-- A session with a store file is opened on the disk. The rest of the world
isn't touched by it. -/
theorem run_connect_onDisk {config : ClusterConfig} {path : String}
    (hpath : config.location = .onDisk path) :
    ((Machine.clientHost net).connect config).run m =
      (((LocalSession.connect path config.pool).run m.world.disk).1.map .onDisk,
        { m with world := { m.world with
          disk := ((LocalSession.connect path config.pool).run m.world.disk).2 } }) := by
  show (Machine.onWorld (Session.connect (World.access net) config.location config.pool)).run m = _
  rw [hpath]
  rfl

/-- If it is opened, the session is the one that the disk has opened. -/
theorem connect_onDisk {config : ClusterConfig} {path : String} {session : Session}
    (hpath : config.location = .onDisk path)
    (h : ((Machine.clientHost net).connect config).run m = (.ok session, m')) :
    ∃ l, (LocalSession.connect path config.pool).run m.world.disk = (.ok l, m'.world.disk) ∧
      session = .onDisk l := by
  rw [run_connect_onDisk hpath] at h
  rcases hconnect : (LocalSession.connect path config.pool).run m.world.disk with ⟨e | l, d⟩ <;>
    rw [hconnect] at h <;> cases h
  exact ⟨l, rfl, rfl⟩

/-- If all stages succeed, the map in the store file has the entries that
were planned. -/
theorem Succeeds.hasMap {p : Passage ω} (h : Succeeds net options m p) {path : String}
    (hpath : p.config.location = .onDisk path) :
    ∃ handle n, p.session = .onDisk ⟨some handle, p.config.pool⟩ ∧
      p.ended.world.disk.IsOpenAt (p.opened.begun p.settings).world.disk.tree path handle n ∧
      p.ended.world.disk.HasMap n ⟨p.config.pool, p.config.object⟩ p.settings.plannedPairs := by
  obtain ⟨l, hconnect, hsession⟩ := connect_onDisk hpath h.connects
  obtain ⟨handle, c, rfl, hopen, hready⟩ := LocalSession.isReady_of_connect hconnect
  obtain ⟨n, hat⟩ := LocalSession.isOpenAt_of_connect hconnect
  have hsetup := h.setsUp
  have hrun := h.runs
  rw [hsession] at hsetup hrun
  have hworld := p.connected.world_displaying options p.settings
  rw [← hworld] at hopen hat
  obtain ⟨c', rows, hdisk, hrows, hsize⟩ :=
    Run.exists_putBack_of_perform (overlooks_displayOf (fun _ _ => rfl) options p.settings) hopen hready
      hsetup hrun
  obtain ⟨n', hstore, htables⟩ := Disk.storeOf?_of_connection? (Disk.connection?_putBack hopen c')
  have hat' := hat.putBack handle c'
  obtain rfl : n' = n := Option.some.inj (hstore.symm.trans hat'.1)
  rw [hdisk]
  exact ⟨handle, n', hsession, hat', _, rows, htables, hrows, hsize⟩

/-- With a store file that can be opened, the benchmark goes all the way
exactly if the store takes the object and all batches. -/
theorem Begins.exists_succeeds_iff {settings : Settings} {config : ClusterConfig} {opened : Machine ω}
    (h : Begins options m settings config opened) {path : String} {n : Nat}
    (hpath : config.location = .onDisk path)
    (hcan : (opened.begun settings).world.disk.CanOpen path n) :
    (∃ p, Succeeds net options m p) ↔
      (Row.ofObject ⟨config.pool, config.object⟩ Run.setupPayload).Fits ∧
        settings.plannedBatches ≤ Run.writableBatches settings ⟨config.pool, config.object⟩ := by
  -- What the stages come to up to the setup doesn't depend on the rows.
  obtain ⟨d, hlocal⟩ := LocalSession.exists_connect hcan config.pool
  obtain ⟨handle, c, hsession, hopen, ps, os, es, htables, hpool⟩ := LocalSession.isReady_of_connect hlocal
  rw [hsession] at hlocal
  have hconnect : ((Machine.clientHost net).connect config).run (opened.begun settings) = _ :=
    run_connect_onDisk hpath
  rw [hlocal] at hconnect
  let connected : Machine ω :=
    { opened.begun settings with world := { (opened.begun settings).world with disk := d } }
  have hopen : (connected.displaying options settings).world.disk.connection? handle = some c := by
    rw [connected.world_displaying]
    exact hopen
  have hdisplay : Machine.Overlooks (ω := ω) (·.world.disk) (displayOf options settings) :=
    overlooks_displayOf (fun _ _ => rfl) options settings
  obtain ⟨r, emptied, hsetup, hok, hbegin⟩ :=
    Run.reached_setup_machine net (displayOf options settings) settings config.object hopen htables hpool
  constructor
  · rintro ⟨⟨settings', config', opened', session', connected', emptied', elapsed', perf', ended'⟩,
      ⟨accepted, configured, logs⟩, connects, setsUp, runs⟩
    dsimp only at accepted configured logs connects setsUp runs
    obtain rfl := Except.ok.inj (accepted.symm.trans h.accepted)
    obtain rfl := Except.ok.inj (configured.symm.trans h.configured)
    obtain ⟨-, rfl⟩ := Prod.mk.inj (logs.symm.trans h.logs)
    obtain ⟨hsame, rfl⟩ := Prod.mk.inj (connects.symm.trans hconnect)
    obtain rfl := Except.ok.inj hsame
    obtain ⟨rfl, rfl⟩ := Prod.mk.inj (setsUp.symm.trans hsetup)
    obtain ⟨result, perf, ended, -, hrun, -, hfits, -⟩ :=
      Run.reached_perform_machine net hdisplay hopen hpool (hbegin rfl)
    obtain ⟨hresult, -⟩ := Prod.mk.inj (Prod.mk.inj (runs.symm.trans hrun)).1
    rw [← hresult] at hfits
    exact ⟨hok.mp rfl, hfits.mp rfl⟩
  · rintro ⟨hobject, hbatches⟩
    obtain rfl := hok.mpr hobject
    obtain ⟨result, perf, ended, -, hrun, -, hfits, -⟩ :=
      Run.reached_perform_machine net hdisplay hopen hpool (hbegin rfl)
    cases result with
    | error e => cases hfits.mpr hbatches
    | ok elapsed =>
      exact ⟨⟨settings, config, opened, _, _, emptied, elapsed, perf, ended⟩, h, hconnect, hsetup, hrun⟩

/-! ### How a call ends -/

section

variable {arguments : List String}

/-- If the benchmark succeeds, the program exits with 0 and says nothing
more. -/
theorem run_execute_ok (hparse : ClientOptions.parse arguments = .ok options)
    (h : outcome (benchmark (Machine.clientHost net) options) m = (.ok (), m')) :
    (execute (Machine.clientHost net) arguments).run m = (0, m') := by
  have hrun : (benchmark (Machine.clientHost net) options).run.run m = (.ok (), m') := h
  rw [execute, hparse]
  dsimp only
  rw [StateT.run_bind, hrun]
  rfl

/-- The machine after a complaint about an error, which the log has as
well. -/
def complaining (m : Machine ω) (e : ClientError) : Machine ω :=
  (m.logged e.message).complain e.report

/-- If it fails, the program complains and exits with 1. -/
theorem run_execute_error (hparse : ClientOptions.parse arguments = .ok options) {e : ClientError}
    (h : outcome (benchmark (Machine.clientHost net) options) m = (.error e, m')) :
    (execute (Machine.clientHost net) arguments).run m = (1, complaining m' e) := by
  have hrun : (benchmark (Machine.clientHost net) options).run.run m = (.error e, m') := h
  rw [execute, hparse]
  dsimp only
  rw [StateT.run_bind, hrun]
  rfl

/-- If all stages succeed, the program exits with 0. What it does behind the
run can't spoil that. -/
theorem run_execute_of_succeeds (hparse : ClientOptions.parse arguments = .ok options) {p : Passage ω}
    (h : Succeeds net options m p) :
    ∃ m', (execute (Machine.clientHost net) arguments).run m = (0, m') ∧
      Unharmed (p.ended.prints [elapsedLine p.elapsed]) m' := by
  obtain ⟨_, m', hclosing, hunharmed⟩ := harmless_closing net p.session p.config p.performance
    (p.ended.prints [elapsedLine p.elapsed])
  exact ⟨m', run_execute_ok hparse ((outcome_of_succeeds h).trans hclosing), hunharmed⟩

/-- If a stage fails, it exits with 1, whichever stage that was. -/
theorem run_execute_of_stops (hparse : ClientOptions.parse arguments = .ok options) {e : ClientError}
    (h : Stops net options m e m') :
    (execute (Machine.clientHost net) arguments).run m = (1, complaining m' e) :=
  run_execute_error hparse (outcome_of_stops h)

/-- A complaint is no output, unless the log leads there. -/
theorem printed_complaining (h : m.LogsApart) (e : ClientError) :
    (complaining m e).printed = m.printed :=
  congrArg Prod.fst (Machine.apparent_logged h e.message)

/-- It is the report of the error on a line of its own. -/
theorem complaints_complaining (h : m.LogsApart) (e : ClientError) :
    (complaining m e).complaints = m.complaints ++ e.report ++ "\n" := by
  have hlogged : (m.logged e.message).complaints = m.complaints :=
    congrArg (·.2.1) (Machine.apparent_logged h e.message)
  rw [← hlogged]
  rfl

/-- It leaves the log open. -/
theorem log?_complaining (m : Machine ω) (e : ClientError) : (complaining m e).log? = m.log? :=
  m.log?_logged e.message

/-- And it is drawn nowhere. -/
theorem screen_complaining (m : Machine ω) (e : ClientError) : (complaining m e).screen = m.screen :=
  m.screen_logged e.message

/-- Where no log is open, a complaint changes nothing in the world.
Otherwise it is a line in the log, too. -/
theorem world_complaining (h : m.log? = none) (e : ClientError) : (complaining m e).world = m.world := by
  have hlogged : m.logged e.message = m := by
    simp only [Machine.logged, Machine.log, StateT.run, h]
  show (m.logged e.message).world = m.world
  rw [hlogged]

end

/-- How a call of the program ends that begins on one machine and leaves
another. -/
structure Exits (net : Network (StateM ω)) (options : ClientOptions) (m : Machine ω) (code : UInt32)
    (m' : Machine ω) : Prop where
  /-- The exit status is 0 exactly if the settings and the configuration are
  accepted, the log opens, and the session, the setup and the run succeed.
  Counting the map afterwards may fail. -/
  zero_iff : code = 0 ↔ ∃ p, Succeeds net options m p
  /-- Any other call exits with 1. -/
  zero_or_one : code = 0 ∨ code = 1
  /-- If a log is open, it is the one that the configuration names. -/
  log : ∀ target, m'.log? = some target → ∃ settings config opened,
    Begins options m settings config opened ∧ opened.log? = some target
  /-- If all stages succeed, the output is the summary, the lines of all
  pairs that were planned if `DEBUG` is set, and the elapsed time. There are no
  complaints. A log that leads to the output or to the complaints, or to a
  full device, may put something in between. -/
  output : ∀ p, Succeeds net options m p →
    p.settings.debug = m.debugs ∧ IsElapsedLine (elapsedLine p.elapsed) ∧ (m'.LogsApart →
      m'.printed = m.printed ++ unlines (p.settings.summary ++
        p.settings.debugLines 0 p.settings.plannedPairs ++ [elapsedLine p.elapsed]) ∧
      m'.complaints = m.complaints)
  /-- Then the object's map in the store file has as many entries as were
  planned. The file is the one that the path of the configuration led to when
  the session was opened, unless that is an address. -/
  map : ∀ p path, Succeeds net options m p → p.config.location = .onDisk path →
    Disk.IsFileName path → ∃ handle n, p.session = .onDisk ⟨some handle, p.config.pool⟩ ∧
      m'.world.disk.IsOpenAt (p.opened.begun p.settings).world.disk.tree path handle n ∧
      m'.world.disk.HasMap n ⟨p.config.pool, p.config.object⟩ p.settings.plannedPairs
  /-- A call that exits with 1 complains about the first stage that failed.
  Unless the log gets in between, it complains about nothing else. -/
  complaint : code = 1 → ∃ e m₁, Stops net options m e m₁ ∧ "ERROR: ".toList <+: e.report.toList ∧
    (m'.LogsApart → m'.complaints = m.complaints ++ e.report ++ "\n")
  /-- It has printed nothing, or the summary and the lines of the first pairs
  that were planned. None of these lines tells an elapsed time. -/
  unfinished : code = 1 → m'.LogsApart → ∃ lines, m'.printed = m.printed ++ unlines lines ∧
    IsBeginning options m.debugs lines ∧ ∀ line ∈ lines, '\n' ∉ line.toList ∧ ¬ IsElapsedLine line
  /-- Nothing is drawn unless progress is asked for and there is a terminal. -/
  undrawn : options.progress = false ∨ m.screen = none → m'.screen = m.screen
  /-- If the settings or the configuration are refused, the files and the
  network are as they were. -/
  refused : (∀ settings config, ¬ (options.settings m.debugs = .ok settings ∧
    m.clusterConfig options.config = .ok config)) → code = 1 ∧ m'.world = m.world
  /-- So they are if the log doesn't open, except for directories that were
  made for it: no store has changed. -/
  unopened : (∀ settings config opened, ¬ Begins options m settings config opened) →
    code = 1 ∧ m'.world.disk.stores = m.world.disk.stores ∧
      m'.world.disk.handles = m.world.disk.handles ∧
      m.world.disk.tree.Grows m'.world.disk.tree ∧ m'.world.net = m.world.net
  /-- Reading is refused whatever the other options are. -/
  reading : options.operation = .read → code = 1 ∧ m'.world = m.world

section

variable {arguments : List String}

/-- A call whose stages all succeed ends so. What is said of calls that exit
with 1 is empty then. -/
theorem exits_of_succeeds (hparse : ClientOptions.parse arguments = .ok options) {p : Passage ω}
    (h : Succeeds net options m p) (hrun : (execute (Machine.clientHost net) arguments).run m = (0, m')) :
    Exits net options m 0 m' := by
  -- A call ends in one way only, whatever its stages are said to come to.
  have hends {p : Passage ω} (hp : Succeeds net options m p) :
      Unharmed (p.ended.prints [elapsedLine p.elapsed]) m' := by
    obtain ⟨m₁, hrun₁, hunharmed⟩ := run_execute_of_succeeds hparse hp
    obtain rfl : m₁ = m' := congrArg Prod.snd (hrun₁.symm.trans hrun)
    exact hunharmed
  have hlog {p : Passage ω} (hp : Succeeds net options m p) : m'.log? = p.opened.log? :=
    (hends hp).log.trans hp.log?_ended
  exact {
    zero_iff := ⟨fun _ => ⟨p, h⟩, fun _ => rfl⟩
    zero_or_one := .inl rfl
    log := fun target htarget => ⟨_, _, _, h.toBegins, (hlog h).symm.trans htarget⟩
    output := fun p hp => by
      obtain ⟨start, stop, helapsed⟩ := Run.exists_between_of_perform _ _ hp.runs
      refine ⟨debug_of_accepted hp.accepted, helapsed ▸ isElapsedLine_between start stop,
        fun hapart => ?_⟩
      have hopened : p.opened.LogsApart := by
        rw [Machine.LogsApart, ← hlog hp]
        exact hapart
      have hended : p.ended.LogsApart := by
        rw [Machine.LogsApart, hp.log?_ended]
        exact hopened
      obtain ⟨htold, hcomplaints, -⟩ := hp.told
      have hprinted := ((hp.printed hopened).trans (Machine.printed_prints _ _)).same
        ((hends hp).apparent hended)
      exact ⟨by rw [hprinted.printed, htold], hprinted.complaints.trans hcomplaints⟩
    map := fun p path hp hpath _ => by
      obtain ⟨handle, n, hsession, hat, hmap⟩ := hp.hasMap hpath
      exact ⟨handle, n, hsession, (hends hp).keeps.isOpenAt hat, (hends hp).keeps.hasMap hmap⟩
    complaint := fun hone => absurd hone (by decide)
    unfinished := fun hone => absurd hone (by decide)
    undrawn := Machine.screen_of_still ((Machine.still_of_screen (hends h).screen).trans h.still)
    refused := fun hnot => absurd ⟨h.accepted, h.configured⟩ (hnot _ _)
    unopened := fun hnot => absurd h.toBegins (hnot _ _ _)
    reading := fun hread => by
      have haccepted := h.accepted
      rw [refused_of_read hread] at haccepted
      cases haccepted }

/-- So does a call that stops at a stage. What is said of successes is empty
then, and the rest is known of each stage. -/
theorem exits_of_stops (hparse : ClientOptions.parse arguments = .ok options) (hfresh : m.log? = none)
    {e : ClientError} {m₁ : Machine ω} (h : Stops net options m e m₁) :
    Exits net options m 1 (complaining m₁ e) := by
  have hrun := run_execute_of_stops hparse h
  -- A call ends in one way only.
  have hnot (p : Passage ω) : ¬ Succeeds net options m p := fun hp => by
    obtain ⟨m', hrun', -⟩ := run_execute_of_succeeds hparse hp
    cases hrun'.symm.trans hrun
  have hrefused (hnot : ∀ settings config, ¬ (options.settings m.debugs = .ok settings ∧
      m.clusterConfig options.config = .ok config)) :
      (1 : UInt32) = 1 ∧ (complaining m₁ e).world = m.world := by
    obtain rfl := h.eq_of_refused hnot
    exact ⟨rfl, world_complaining hfresh e⟩
  have hlog := log?_complaining m₁ e
  have hapart (hafter : (complaining m₁ e).LogsApart) : m₁.LogsApart := by
    rw [Machine.LogsApart, ← hlog]
    exact hafter
  exact {
    zero_iff := ⟨fun hzero => absurd hzero (by decide), fun hp => hp.elim fun p hp => absurd hp (hnot p)⟩
    zero_or_one := .inr rfl
    log := fun target htarget => h.exists_begins hfresh (hlog.symm.trans htarget)
    output := fun p hp => absurd hp (hnot p)
    map := fun p _ hp => absurd hp (hnot p)
    complaint := fun _ => by
      refine ⟨e, m₁, h, ?_, fun hafter => ?_⟩
      · rw [ClientError.report, String.append_assoc, String.append_assoc, String.toList_append]
        exact List.prefix_append _ _
      · rw [complaints_complaining (hapart hafter), (h.told (hapart hafter)).1]
    unfinished := fun _ hafter => by
      obtain ⟨-, lines, hprinted, hlines⟩ := h.told (hapart hafter)
      exact ⟨lines, by rw [printed_complaining (hapart hafter), hprinted], hlines,
        hlines.not_isElapsedLine⟩
    undrawn := Machine.screen_of_still
      ((Machine.still_of_screen (screen_complaining m₁ e)).trans h.still)
    refused := hrefused
    unopened := fun hnot => by
      obtain ⟨tree, rfl, hgrows⟩ := h.world_of_not_begins hnot
      have hnone : (m.setTree tree).log? = none := hfresh
      rw [world_complaining hnone e]
      exact ⟨rfl, rfl, rfl, hgrows, rfl⟩
    reading := fun hread => hrefused fun settings config hboth => by
      rw [refused_of_read hread] at hboth
      cases hboth.1 }

/-- Every call with arguments that can be read ends so, whatever the
environment, the files and the network are. The log isn't open when the
program begins. -/
theorem exits_execute (net : Network (StateM ω)) {arguments : List String} {options : ClientOptions}
    (hparse : ClientOptions.parse arguments = .ok options) (m : Machine ω) (hfresh : m.log? = none) :
    Exits net options m ((execute (Machine.clientHost net) arguments).run m).1
      ((execute (Machine.clientHost net) arguments).run m).2 := by
  rcases succeeds_or_stops net options m with ⟨p, hp⟩ | ⟨e, m₁, hstops⟩
  · obtain ⟨m', hrun, -⟩ := run_execute_of_succeeds hparse hp
    rw [hrun]
    exact exits_of_succeeds hparse hp hrun
  · rw [run_execute_of_stops hparse hstops]
    exact exits_of_stops hparse hfresh hstops

/-! ### Machines with one configuration file -/

/-- A result that is there is the result. Results can be compared by
computation where errors can't. -/
theorem ok_of_toOption {ε α : Type} {x : Except ε α} {a : α} (h : x.toOption = some a) : x = .ok a := by
  cases x with
  | error e => cases h
  | ok b => exact congrArg _ (Option.some.inj h)

/-- A machine with a configuration file among other files, in the current
directory. -/
def configured (tree : FileTree) (text : String) : Machine Unit :=
  .withWorld ⟨.ofTree (tree.put ["bench.yaml"] (.bytes (Utf8.encode text))), ()⟩ []

/-- Its configuration is what the text says. Nothing in the environment has
a part in that. -/
theorem clusterConfig_configured {tree : FileTree} {text : String} {config : ClusterConfig}
    (hroot : tree.current = [])
    (h : (ClusterConfig.parse none "bench.yaml" text).toOption = some config) :
    (configured tree text).clusterConfig (some "bench.yaml") = .ok config := by
  let files := tree.put ["bench.yaml"] (.bytes (Utf8.encode text))
  have hfile : files.resolve "bench.yaml" = .ok ⟨["bench.yaml"], some (.bytes (Utf8.encode text))⟩ := by
    have hsegments : Path.segments "bench.yaml" = ["bench.yaml"] := by decide +kernel
    have hcurrent : files.current = [] := hroot
    have hthere : files.get? ["bench.yaml"] = some (.bytes (Utf8.encode text)) := by
      rw [FileTree.get?_put (by simp), if_pos rfl]
    rw [FileTree.resolve_eq_walk (by simp) (by decide +kernel), hsegments, hcurrent, ← hthere]
    rfl
  have hread : (configured tree text).world.disk.tree.readText "bench.yaml" = .ok text := by
    change files.readText "bench.yaml" = .ok text
    simp only [FileTree.readText, hfile, bind, Except.bind, Utf8.decode?_encode]
    rfl
  exact (Machine.clusterConfig_of_readText hread).trans (ok_of_toOption h)

/-- Three pairs in batches of two are written into a store file that isn't
there before. -/
theorem exits_execute_newStore :
    let m := configured ⟨∅, []⟩ "local: store.db\nlog: log\n"
    let arguments := ["--config", "bench.yaml", "--kvpairs-per-call", "2", "--total-kvpairs", "3"]
    let options : ClientOptions := ⟨.write, 2, 3, 2, .zero, some "bench.yaml", false⟩
    let ended := (execute (Machine.clientHost (Network.unreachable Url.asciiHost)) arguments).run m
    ClientOptions.parse arguments = .ok options ∧ m.log? = none ∧
      Exits (Network.unreachable Url.asciiHost) options m ended.1 ended.2 ∧ ended.1 = 0 := by
  intro m arguments options ended
  have hparse : ClientOptions.parse arguments = .ok options := ok_of_toOption (by decide +kernel)
  have hexits := exits_execute (Network.unreachable Url.asciiHost) hparse m rfl
  refine ⟨hparse, rfl, hexits, hexits.zero_iff.mpr ?_⟩
  -- The configuration is read, and the log is made and gets its first line.
  let config : ClusterConfig := ⟨"bench.yaml", .onDisk "store.db", "ben", "hw", false, none, "log"⟩
  let settings : Settings := ⟨2, 3, 2, false, .zero, by decide, by decide, by decide, by decide⟩
  have hconfig : m.clusterConfig options.config = .ok config :=
    clusterConfig_configured rfl (by decide +kernel)
  have hlog (t : FileTree) (h : t.current = []) : t.resolve "log" = .ok ⟨["log"], t.get? ["log"]⟩ := by
    rw [FileTree.resolve_eq_walk (by simp) (by decide +kernel), h]
    rfl
  let tree := m.world.disk.tree
  let empty := tree.put ["log"] (.bytes [])
  let begun := empty.put ["log"] (.bytes (Utf8.encode "omapbench starts\n"))
  let opened : Machine Unit := { m.setTree empty with log? := some (.file "log") }
  have hopen : (Machine.openLog (m.logPath config)).run m = (.ok (), opened) := by
    have hmade : tree.createDirectories ((Path.parent? "log").getD "") = (.ok (), tree) := by
      have hparent : Path.parent? "log" = some "" := by decide +kernel
      rw [hparent]
      rfl
    have hadd : tree.openForAppend "log" = .ok empty := by
      have hend : "log".endsWith "/" = false := by decide +kernel
      rw [FileTree.openForAppend, hlog tree rfl, hend]
      rfl
    have htarget : Machine.logTarget empty "log" = .file "log" := by
      rw [Machine.logTarget, FileTree.entry?, hlog empty rfl]
      rfl
    rw [m.logPath_of_notMem (by decide +kernel), Machine.run_openLog_of_made hmade hadd, htarget]
  have hbegun : opened.logged "omapbench starts" = opened.setTree begun := by
    have happend : empty.append "log" (Utf8.encode "omapbench starts\n") = begun := by
      rw [FileTree.append, hlog empty rfl]
      rfl
    exact congrArg opened.setTree happend
  -- There is room for the store file, and there are keys for all pairs.
  have hdisk : (opened.begun settings).world.disk = .ofTree begun := by
    rw [Machine.begun, hbegun]
    rfl
  have hroom : begun.HasRoomAt "store.db" ⟨["store.db"], none⟩ := by
    refine ⟨rfl, ?_, .inl rfl⟩
    exact FileTree.locate_name rfl ⟨by decide, by decide⟩ (by decide) (by decide) (by simp)
      (by decide +kernel)
  have hcan : (opened.begun settings).world.disk.CanOpen "store.db" 0 := by
    rw [hdisk]
    exact .inr ⟨⟨_, hroom⟩, rfl⟩
  have hbegins : Begins options m settings config opened := ⟨rfl, hconfig, hopen⟩
  exact (hbegins.exists_succeeds_iff rfl hcan).mpr (by decide +kernel)

/-! ### Logs that get in between -/

/-- Arguments that only name the configuration file. All else has its
default. -/
def plainArguments : List String := ["--config", "bench.yaml"]

/-- What they are read as. -/
def plainOptions : ClientOptions := ⟨.write, 1, 10, 2, .zero, some "bench.yaml", false⟩

/-- They are read so, by computation. -/
theorem parse_plainArguments : ClientOptions.parse plainArguments = .ok plainOptions :=
  ok_of_toOption (by decide +kernel)

/-- A call with these arguments. There is no server on the network. -/
def call (m : Machine Unit) : UInt32 × Machine Unit :=
  (execute (Machine.clientHost (Network.unreachable Url.asciiHost)) plainArguments).run m

/-- A machine whose log leads to the complaints, and whose store file can't
be opened. -/
def complainingLog : Machine Unit :=
  configured (((FileTree.mk ∅ []).put ["dev"] .directory).put ["dev", "stderr"] (.device .complaints))
    "local: missing/s.db\nlog: /dev/stderr\n"

/-- The complaints of its call begin with the first line of the log. So a
program that complains need not begin with an error. -/
theorem call_complainingLog :
    (call complainingLog).1 = 1 ∧ ¬ "ERROR: ".toList <+: (call complainingLog).2.complaints.toList := by
  let tree := complainingLog.world.disk.tree
  let config : ClusterConfig :=
    ⟨"bench.yaml", .onDisk "missing/s.db", "ben", "hw", false, none, "/dev/stderr"⟩
  let settings : Settings := ⟨1, 10, 2, false, .zero, by decide, by decide, by decide, by decide⟩
  let opened : Machine Unit := { complainingLog with log? := some (.device .complaints) }
  have hconfig : complainingLog.clusterConfig plainOptions.config = .ok config :=
    clusterConfig_configured rfl (by decide +kernel)
  -- The device is there, so the log is opened as it is.
  have hopen : (Machine.openLog (complainingLog.logPath config)).run complainingLog = (.ok (), opened) := by
    have hdirectory : tree.resolve "/dev" = .ok ⟨["dev"], some .directory⟩ := by
      rw [FileTree.resolve_eq_walk (by simp) (by decide +kernel)]
      rfl
    have hdevice : tree.resolve "/dev/stderr" = .ok ⟨["dev", "stderr"], some (.device .complaints)⟩ := by
      rw [FileTree.resolve_eq_walk (by simp) (by decide +kernel)]
      rfl
    rw [Machine.logPath_of_notMem _ (by decide +kernel)]
    exact Machine.run_openLog_of_device (by decide +kernel) (by decide) (by decide +kernel) hdirectory
      hdevice
  -- But there is no directory for the store file.
  have hfails : ((Machine.clientHost (Network.unreachable Url.asciiHost)).connect config).run
      (opened.begun settings) =
      (.error (.openStore (.cannotOpen "missing/s.db")), opened.begun settings) := by
    have hlocate : Disk.locate tree "missing/s.db" = none := by
      have hnul : "missing/s.db".contains '\x00' = false := by simp
      have hsegments : Path.segments "missing/s.db" = ["missing", "s.db"] := by decide +kernel
      rw [Disk.locate, hnul, hsegments]
      rfl
    have hstore : (Disk.openStore "missing/s.db").run (.ofTree tree) =
        (.error (.cannotOpen "missing/s.db"), .ofTree tree) :=
      Disk.run_openStore_of_locate_none (by decide) hlocate
    have hdisk : (opened.begun settings).world.disk = .ofTree tree := rfl
    rw [run_connect_onDisk rfl, LocalSession.connect, StateT.run_bind, hdisk, hstore]
    rfl
  have hrun : call complainingLog = _ :=
    run_execute_of_stops parse_plainArguments (.session ⟨rfl, hconfig, hopen⟩ hfails)
  rw [hrun]
  refine ⟨rfl, ?_⟩
  let e : ClientError := .session (.openStore (.cannotOpen "missing/s.db"))
  have hcomplaints : (complaining (opened.begun settings) e).complaints =
      "" ++ "omapbench starts" ++ "\n" ++ e.message ++ "\n" ++ e.report ++ "\n" := rfl
  rw [hcomplaints]
  simp only [String.empty_append, String.toList_append, List.append_assoc]
  rintro ⟨rest, hrest⟩
  have hfirst : some 'E' = some 'o' := congrArg List.head? hrest
  cases hfirst

/-- A machine whose log needs a directory where the store file is to be.
Both paths are in the same configuration. -/
def logThrough : Machine Unit :=
  configured ⟨∅, []⟩ "local: s.db\nlog: s.db/log/\n"

/-- Its call stops before anything is opened, and leaves no room for the
store file. -/
theorem call_logThrough :
    (call logThrough).1 = 1 ∧
      (∀ settings config opened, ¬ Begins plainOptions logThrough settings config opened) ∧
      logThrough.world.disk.CanOpen "s.db" 0 ∧ ¬ ∃ n, (call logThrough).2.world.disk.CanOpen "s.db" n := by
  let tree := logThrough.world.disk.tree
  let made := tree.put ["s.db"] .directory
  let config : ClusterConfig := ⟨"bench.yaml", .onDisk "s.db", "ben", "hw", false, none, "s.db/log/"⟩
  have hconfig : logThrough.clusterConfig plainOptions.config = .ok config :=
    clusterConfig_configured rfl (by decide +kernel)
  have hopen : (Machine.openLog (logThrough.logPath config)).run logThrough =
      (.error .isDirectory, logThrough.setTree made) := by
    have hmade : tree.createDirectories ((Path.parent? "s.db/log/").getD "") = (.ok (), made) := by
      have hparent : Path.parent? "s.db/log/" = some "s.db" := by decide +kernel
      have hnothing : tree.resolve "s.db" = .ok ⟨["s.db"], none⟩ := by
        rw [FileTree.resolve_eq_walk (by simp) (by decide +kernel)]
        rfl
      rw [hparent]
      exact FileTree.createDirectories_of_nothing (by simp) hnothing
    have hadd : made.openForAppend "s.db/log/" = .error .isDirectory := by
      have hnothing : made.resolve "s.db/log/" = .ok ⟨["s.db", "log"], none⟩ :=
        FileTree.resolve_of_walk_nothing (by simp) (by decide +kernel) rfl
      exact FileTree.openForAppend_of_slash (by decide +kernel) hnothing
    rw [Machine.logPath_of_notMem _ (by decide +kernel)]
    exact Machine.run_openLog_of_refused hmade hadd
  have hrun : call logThrough = _ :=
    run_execute_of_stops parse_plainArguments (.log rfl hconfig hopen)
  have hlocate (t : FileTree) (hroot : t.current = []) :
      Disk.locate t "s.db" = some ⟨["s.db"], t.get? ["s.db"]⟩ :=
    FileTree.locate_name hroot ⟨by decide, by decide⟩ (by decide) (by decide) (by simp) (by decide +kernel)
  have hafter : (call logThrough).2.world.disk.tree = made := by
    rw [hrun, world_complaining rfl]
    rfl
  have hthere : Disk.locate made "s.db" = some ⟨["s.db"], some .directory⟩ := by
    rw [hlocate made rfl, FileTree.get?_put (by simp), if_pos rfl]
  refine ⟨congrArg Prod.fst hrun, fun settings config' opened begins => ?_,
    .inr ⟨⟨_, rfl, hlocate tree rfl, .inl rfl⟩, rfl⟩, ?_⟩
  · obtain rfl := Except.ok.inj (hconfig.symm.trans begins.configured)
    cases hopen.symm.trans begins.logs
  · rintro ⟨n, ⟨⟨-, place, hplace, hentry⟩, -⟩ | ⟨⟨place, -, hplace, hentry⟩, -⟩⟩ <;>
      rw [hafter, hthere] at hplace <;> cases hplace
    · cases hentry
    · rcases hentry with hentry | hentry <;> cases hentry

/-- So complaints need not begin with the error where the log leads to them,
and a program that stops before it opens anything can leave a directory in
the way of the store file. -/
theorem execute_logInBetween :
    ClientOptions.parse plainArguments = .ok plainOptions ∧
      ((call complainingLog).1 = 1 ∧
        ¬ "ERROR: ".toList <+: (call complainingLog).2.complaints.toList) ∧
      (call logThrough).1 = 1 ∧
      (∀ settings config opened, ¬ Begins plainOptions logThrough settings config opened) ∧
      logThrough.world.disk.CanOpen "s.db" 0 ∧
      ¬ ∃ n, (call logThrough).2.world.disk.CanOpen "s.db" n :=
  ⟨parse_plainArguments, call_complainingLog, call_logThrough⟩

end

end MapBench.Client
