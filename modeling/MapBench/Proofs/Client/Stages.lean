import MapBench.Proofs.Client.Written
import Mathlib.Data.String.Basic

/-!
# `MapBench.Proofs.Client.Stages`: the benchmark stage by stage

The benchmark goes through its stages on a machine. Either all of them
succeed, or one is the first that fails, and then the program stops there.

* `Client.Succeeds`: all stages succeed, with what each comes to.
* `Client.Stops`: a stage is the first that fails.
* `Client.succeeds_or_stops`: one of the two happens.
* `Client.outcome_of_stops`: the program ends at the stage that fails.
  `Client.outcome_of_succeeds`: otherwise it gets to its end, and tells how
  long the run took.
-/

set_option autoImplicit false

namespace MapBench

variable {ω : Type}

/-! ### Where the log goes -/

namespace LogFile

open String

/-- Where no variable begins, a text stays in one piece. The induction is on
what is left of it. -/
theorem splitOnAux_of_notMem (l r : List Char) (h : '$' ∉ r) :
    splitOnAux (ofList (l ++ r)) mark 0 ⟨utf8Len l⟩ 0 [] = [ofList (l ++ r)] := by
  induction r generalizing l with
  | nil =>
    have hall := extract_of_valid [] l []
    simp only [List.nil_append, utf8Len_nil, Nat.zero_add] at hall
    rw [splitOnAux, if_pos ((atEnd_of_valid l []).mpr rfl)]
    exact congrArg (fun piece => [piece]) (hall.trans (by rw [List.append_nil]))
  | cons c r ih =>
    obtain ⟨hne, hrest⟩ := not_or.mp (mt List.mem_cons.mpr h)
    have hc : (c == Pos.Raw.get mark 0) = false := by
      rw [beq_eq_false_iff_ne]
      exact Ne.symm hne
    have hnext := ih (l ++ [c]) hrest
    rw [List.append_assoc, List.singleton_append, utf8Len_append, utf8Len_cons, utf8Len_nil,
      Nat.zero_add] at hnext
    rw [splitOnAux, if_neg (fun hend => by cases (atEnd_of_valid l (c :: r)).mp hend),
      get_of_valid, List.headD_cons, hc, if_neg (by decide), ← hnext, ← next_of_valid l c r]
    rfl

/-- A path that mentions no variables is as it is written. Without a dollar
sign none is mentioned. -/
theorem expand_of_notMem (value : String → Id (Option String)) {path : String}
    (h : '$' ∉ path.toList) : Id.run (expand value path) = path := by
  have hsplit : path.splitOn mark = [path] := by
    have hall := splitOnAux_of_notMem [] path.toList h
    rw [List.nil_append, ofList_toList] at hall
    rw [splitOn, if_neg (by decide)]
    exact hall
  rw [expand, hsplit]
  exact String.append_empty

end LogFile

/-! ### What the stages look at -/

namespace Machine

/-- Are pairs to be printed? The variable only has to be there, whatever its
value is. -/
def debugs (m : Machine ω) : Bool :=
  (m.environment.lookup "DEBUG").isSome

/-- The configuration file to read. If none is named, it is looked for in
the usual places. -/
def configFile (m : Machine ω) : Option String → String
  | some file => file
  | none =>
    let hasEntry : String → Id Bool := fun path => m.world.disk.tree.hasEntry path
    Id.run (defaultConfigFile hasEntry (m.environment.lookup "HOME")
      (m.environment.lookup "XDG_CONFIG_HOME"))

/-- The configuration in it, or what is wrong with that. This is the reader
of the program, run on the files of the machine. -/
def clusterConfig (m : Machine ω) (named : Option String) : Except ClusterError ClusterConfig :=
  Id.run (ClusterConfig.read m.world.disk.tree.reader (m.environment.lookup "HOME")
    (m.configFile named)).run

/-- The path of the log file, with the variables in it filled in. -/
def logPath (m : Machine ω) (config : ClusterConfig) : String :=
  let value : String → Id (Option String) := fun name => m.environment.lookup name
  Id.run (LogFile.expand value config.log)

/-- Without variables it is the path in the configuration. -/
theorem logPath_of_notMem (m : Machine ω) {config : ClusterConfig} (h : '$' ∉ config.log.toList) :
    m.logPath config = config.log :=
  LogFile.expand_of_notMem _ h

/-- The machine with a line more in its log. If no log is open, nothing
changes. -/
def logged (m : Machine ω) (line : String) : Machine ω :=
  ((Machine.log line).run m).2

/-- The machine when the session is to be opened: the log has its first
line, and the summary is printed. -/
def begun (m : Machine ω) (settings : Settings) : Machine ω :=
  (m.logged "omapbench starts").prints settings.summary

/-- The configuration is what the text of its file says. Of the environment
only the home directory matters then. -/
theorem clusterConfig_of_readText {m : Machine ω} {named : Option String} {text : String}
    (h : m.world.disk.tree.readText (m.configFile named) = .ok text) :
    m.clusterConfig named =
      ClusterConfig.parse (m.environment.lookup "HOME") (m.configFile named) text := by
  have hreader : m.world.disk.tree.reader.readText (m.configFile named) = .ok text := h
  simp only [clusterConfig, ClusterConfig.read, attempt, ExceptT.run_bind, ExceptT.run_mk, hreader]
  let parsed := ClusterConfig.parse (m.environment.lookup "HOME") (m.configFile named) text
  show Id.run (orElseEnd id parsed : ExceptT ClusterError Id ClusterConfig).run = parsed
  cases parsed <;> rfl

/-- A log is opened once the directory above it is there. Whether its path
leads to a device is looked up then, and not for each line. -/
theorem run_openLog_of_made {m : Machine ω} {path : String} {made tree : FileTree}
    (hmade : m.world.disk.tree.createDirectories ((Path.parent? path).getD "") = (.ok (), made))
    (h : made.openForAppend path = .ok tree) : (openLog path).run m =
      (.ok (), { m.setTree tree with log? := some (logTarget tree path) }) := by
  simp only [openLog, StateT.run, hmade, Except.bind, h]

/-- If it isn't opened then, the directories that were made stay. No store
is touched by that. -/
theorem run_openLog_of_refused {m : Machine ω} {path : String} {made : FileTree} {e : FileError}
    (hmade : m.world.disk.tree.createDirectories ((Path.parent? path).getD "") = (.ok (), made))
    (h : made.openForAppend path = .error e) :
    (openLog path).run m = (.error e, m.setTree made) := by
  simp only [openLog, StateT.run, hmade, Except.bind, h]

/-- A device is opened as a log as it is, and nothing has to be made for it.
From then on lines go wherever the device takes them. -/
theorem run_openLog_of_device {m : Machine ω} {path parent : String} {L L' : Location} {d : Device}
    (hparent : Path.parent? path = some parent) (hne : parent ≠ "") (hend : path.endsWith "/" = false)
    (hdirectory : m.world.disk.tree.resolve parent = .ok ⟨L, some .directory⟩)
    (hdevice : m.world.disk.tree.resolve path = .ok ⟨L', some (.device d)⟩) :
    (openLog path).run m = (.ok (), { m with log? := some (.device d) }) := by
  have hmade : m.world.disk.tree.createDirectories ((Path.parent? path).getD "") =
      (.ok (), m.world.disk.tree) := by
    rw [hparent]
    exact FileTree.createDirectories_of_directory hne hdirectory
  have hadd : m.world.disk.tree.openForAppend path = .ok m.world.disk.tree := by
    rw [FileTree.openForAppend, hdevice, hend]
    rfl
  have htarget : logTarget m.world.disk.tree path = .device d := by
    rw [logTarget, FileTree.entry?, hdevice]
  rw [run_openLog_of_made hmade hadd, htarget]
  rfl

/-- The log is no stream of the program, and not full. With such a log,
lines in it can't be seen on the program's own output. -/
def LogsApart (m : Machine ω) : Prop :=
  ∀ d, m.log? = some (.device d) → d = .null

/-- A line in a log of its own doesn't show. -/
theorem apparent_logged {m : Machine ω} (h : m.LogsApart) (line : String) :
    (m.logged line).apparent = m.apparent := by
  simp only [logged, log, StateT.run]
  rcases hlog : m.log? with _ | path | d
  · rfl
  · rfl
  · obtain rfl := h d hlog
    rfl

/-- A line in the log leaves it open. -/
theorem log?_logged (m : Machine ω) (line : String) : (m.logged line).log? = m.log? := by
  simp only [logged, log, StateT.run]
  split <;> rfl

/-- A line in the log is drawn nowhere, even if the log is a stream of the
program. -/
theorem screen_logged (m : Machine ω) (line : String) : (m.logged line).screen = m.screen := by
  simp only [logged, log, StateT.run]
  split <;> rfl

/-- The machine with a display of a run, if one is asked for. Putting it up
already draws. -/
def displaying (m : Machine ω) (options : ClientOptions) (settings : Settings) : Machine ω :=
  if options.progress then ((progressBar settings.plannedPairs).run m).2 else m

/-- A display is on the screen, and nowhere else. -/
theorem exists_displaying (m : Machine ω) (options : ClientOptions) (settings : Settings) :
    ∃ screen, m.displaying options settings = { m with screen } := by
  rw [displaying]
  split
  · exact ⟨_, rfl⟩
  · exact ⟨m.screen, rfl⟩

/-- So it leaves the world alone. -/
theorem world_displaying (m : Machine ω) (options : ClientOptions) (settings : Settings) :
    (m.displaying options settings).world = m.world := by
  obtain ⟨screen, heq⟩ := m.exists_displaying options settings
  rw [heq]

end Machine

namespace Client

/-- The display of a run, if one is asked for. It can be told from the
settings, so a failed setup has the same. -/
def displayOf (options : ClientOptions) (settings : Settings) :
    Option (ProgressBar (StateM (Machine ω))) :=
  if options.progress then some (Machine.display settings.plannedPairs) else none

/-- A display does nothing but draw. Whatever doesn't look at the screen
doesn't notice it. -/
theorem overlooks_displayOf {τ : Type} {view : Machine ω → τ}
    (hscreen : ∀ (m : Machine ω) screen, view { m with screen } = view m) (options : ClientOptions)
    (settings : Settings) : Machine.Overlooks view (displayOf options settings) := by
  intro bar hbar m
  rw [displayOf, Option.mem_def] at hbar
  split at hbar
  · cases hbar
    exact ⟨fun _ => hscreen m _, hscreen m _⟩
  · cases hbar

/-! ### How the program can go -/

/-- What the stages come to, if all of them succeed. The machine in between
is kept where something is said of it later. -/
structure Passage (ω : Type) where
  settings : Settings
  config : ClusterConfig
  /-- The machine when the log is open. -/
  opened : Machine ω
  session : Session
  /-- The machine when the session is open. -/
  connected : Machine ω
  /-- The machine when the object is set up. -/
  emptied : Machine ω
  elapsed : Elapsed
  performance : Performance
  /-- The machine when the run is over. -/
  ended : Machine ω

/-- The settings and the configuration are accepted, and the log file
opens. -/
structure Begins (options : ClientOptions) (m : Machine ω) (settings : Settings)
    (config : ClusterConfig) (opened : Machine ω) : Prop where
  accepted : options.settings m.debugs = .ok settings
  configured : m.clusterConfig options.config = .ok config
  logs : (Machine.openLog (m.logPath config)).run m = (.ok (), opened)

variable (net : Network (StateM ω)) (options : ClientOptions) (m : Machine ω)

/-- All stages succeed, one after another. Each begins on the machine that
the one before has left. -/
structure Succeeds (p : Passage ω) : Prop extends
    Begins options m p.settings p.config p.opened where
  connects : ((Machine.clientHost net).connect p.config).run (p.opened.begun p.settings) =
    (.ok p.session, p.connected)
  setsUp : (Run.setup ((Machine.clientHost net).storage p.session) p.config.object).run
    (p.connected.displaying options p.settings) = (.ok (), p.emptied)
  runs : ((Run.perform (Run.bedOn net p.session (displayOf options p.settings)) p.settings
    p.config.object).run .empty).run p.emptied = ((.ok p.elapsed, p.performance), p.ended)

/-- A stage is the first that fails, in this way, and leaves this machine.
There is one case for each stage, in their order. -/
inductive Stops : ClientError → Machine ω → Prop
  | settings {e : SettingsError} (refused : options.settings m.debugs = .error e) :
      Stops (.settings e) m
  | config {settings : Settings} {e : ClusterError}
      (accepted : options.settings m.debugs = .ok settings)
      (refused : m.clusterConfig options.config = .error e) : Stops (.cluster e) m
  | log {settings : Settings} {config : ClusterConfig} {e : FileError} {m' : Machine ω}
      (accepted : options.settings m.debugs = .ok settings)
      (configured : m.clusterConfig options.config = .ok config)
      (failed : (Machine.openLog (m.logPath config)).run m = (.error e, m')) : Stops (.log e) m'
  | session {settings : Settings} {config : ClusterConfig} {opened : Machine ω} {e : SessionError}
      {m' : Machine ω} (begins : Begins options m settings config opened)
      (failed : ((Machine.clientHost net).connect config).run (opened.begun settings) = (.error e, m')) :
      Stops (.session e) m'
  | setup {settings : Settings} {config : ClusterConfig} {opened connected : Machine ω}
      {session : Session} {e : RunError} {m' : Machine ω}
      (begins : Begins options m settings config opened)
      (connects : ((Machine.clientHost net).connect config).run (opened.begun settings) =
        (.ok session, connected))
      (failed : (Run.setup ((Machine.clientHost net).storage session) config.object).run
        (connected.displaying options settings) = (.error e, m')) :
      Stops (.run e) m'
  | run {settings : Settings} {config : ClusterConfig} {opened connected emptied : Machine ω}
      {session : Session} {e : RunError} {perf : Performance} {m' : Machine ω}
      (begins : Begins options m settings config opened)
      (connects : ((Machine.clientHost net).connect config).run (opened.begun settings) =
        (.ok session, connected))
      (setsUp : (Run.setup ((Machine.clientHost net).storage session) config.object).run
        (connected.displaying options settings) = (.ok (), emptied))
      (failed : ((Run.perform (Run.bedOn net session (displayOf options settings)) settings
        config.object).run .empty).run emptied = ((.error e, perf), m')) :
      Stops (.run e) m'

/-- All stages succeed, or one is the first that fails. The cases are split
in the order in which the stages come. -/
theorem succeeds_or_stops : (∃ p, Succeeds net options m p) ∨ ∃ e m', Stops net options m e m' := by
  cases accepted : options.settings m.debugs with
  | error e => exact .inr ⟨_, _, .settings accepted⟩
  | ok settings =>
    cases configured : m.clusterConfig options.config with
    | error e => exact .inr ⟨_, _, .config accepted configured⟩
    | ok config =>
      rcases logs : (Machine.openLog (m.logPath config)).run m with ⟨e | _, opened⟩
      · exact .inr ⟨_, _, .log accepted configured logs⟩
      · have begins : Begins options m settings config opened := ⟨accepted, configured, logs⟩
        rcases connects : ((Machine.clientHost net).connect config).run (opened.begun settings) with
          ⟨e | session, connected⟩
        · exact .inr ⟨_, _, .session begins connects⟩
        · rcases setsUp : (Run.setup ((Machine.clientHost net).storage session)
            config.object).run (connected.displaying options settings) with ⟨e | _, emptied⟩
          · exact .inr ⟨_, _, .setup begins connects setsUp⟩
          · rcases runs : ((Run.perform (Run.bedOn net session (displayOf options settings)) settings
              config.object).run .empty).run emptied with ⟨⟨e | elapsed, perf⟩, ended⟩
            · exact .inr ⟨_, _, .run begins connects setsUp runs⟩
            · exact .inl ⟨⟨settings, config, opened, session, connected, emptied, elapsed, perf, ended⟩,
                begins, connects, setsUp, runs⟩

/-! ### Looking at a machine -/

/-- After a look at a state, one goes on in the same state. Most of what a
program does before it begins is of that kind. -/
theorem run_bind_look {σ α β : Type} {x : StateM σ α} {f : α → StateM σ β} {s : σ} {a : α}
    (h : x.run s = (a, s)) : (x >>= f).run s = (f a).run s := by
  rw [StateT.run_bind, h]
  rfl

/-- Asking for a variable is a look at the environment. -/
theorem run_getVariable (name : String) :
    ((Machine.clientHost net).getVariable name).run m = (m.environment.lookup name, m) :=
  rfl

/-- Asking for a file is a look at the disk. -/
theorem run_hasEntry (path : String) :
    ((Machine.clientHost net).hasEntry path).run m = (m.world.disk.tree.hasEntry path, m) :=
  rfl

/-- So is looking for a configuration file. -/
theorem run_defaultConfigFile (home configHome : Option String) :
    (defaultConfigFile (Machine.clientHost net).hasEntry home configHome).run m =
      (Id.run (defaultConfigFile (fun path => (m.world.disk.tree.hasEntry path : Id Bool)) home
        configHome), m) := by
  rw [defaultConfigFile, defaultConfigFile]
  cases userConfigFile home configHome with
  | none => rfl
  | some file =>
    dsimp only
    rw [run_bind_look (run_hasEntry net m file)]
    change _ = (Id.run (if m.world.disk.tree.hasEntry file then _ else _), m)
    split <;> rfl

/-- And so is reading one, also if it can't be understood. -/
theorem run_readConfigFile (home : Option String) (file : String) :
    (ClusterConfig.read (Machine.clientHost net).toFileReader home file).run.run m =
      (Id.run (ClusterConfig.read m.world.disk.tree.reader home file).run, m) := by
  have hlook : ((Machine.clientHost net).readText file).run m = (m.world.disk.tree.readText file, m) :=
    rfl
  have hlook' : m.world.disk.tree.reader.readText file = pure (m.world.disk.tree.readText file) := rfl
  simp only [ClusterConfig.read, attempt, ExceptT.run_bind, ExceptT.run_mk, StateT.run_bind, hlook,
    hlook']
  cases m.world.disk.tree.readText file <;> rfl

/-- A variable in a path is looked up in the environment. -/
theorem run_expandPiece (piece : String) :
    (LogFile.expandPiece (Machine.clientHost net).getVariable piece).run m =
      (Id.run (LogFile.expandPiece (fun name => (m.environment.lookup name : Id (Option String))) piece),
        m) := by
  rw [LogFile.expandPiece, LogFile.expandPiece]
  cases LogFile.name? piece with
  | none => rfl
  | some named =>
    obtain ⟨name, rest⟩ := named
    dsimp only
    rw [run_bind_look (run_getVariable net m name)]
    change _ = (Id.run (match m.environment.lookup name with | some text => _ | none => _), m)
    cases m.environment.lookup name <;> rfl

/-- All of them are, and that gives the path of the log. -/
theorem run_expand (config : ClusterConfig) :
    (LogFile.expand (Machine.clientHost net).getVariable config.log).run m = (m.logPath config, m) := by
  have hpieces (pieces : List String) :
      (pieces.mapM (LogFile.expandPiece (Machine.clientHost net).getVariable)).run m =
        (Id.run (pieces.mapM (LogFile.expandPiece fun name =>
          (m.environment.lookup name : Id (Option String)))), m) := by
    induction pieces with
    | nil => rfl
    | cons piece pieces ih =>
      rw [List.mapM_cons, List.mapM_cons, run_bind_look (run_expandPiece net m piece),
        run_bind_look ih]
      rfl
  rw [Machine.logPath, LogFile.expand, LogFile.expand]
  cases config.log.splitOn LogFile.mark with
  | nil => rfl
  | cons first pieces =>
    dsimp only
    rw [run_bind_look (hpieces pieces)]
    rfl

/-! ### What a part of the program comes to -/

section

variable {α β : Type}

/-- What a part of the program comes to on a machine, and the machine that
it leaves. -/
def outcome (x : ExceptT ClientError (StateM (Machine ω)) α) (m : Machine ω) :
    Except ClientError α × Machine ω :=
  x.run.run m

variable {x : ExceptT ClientError (StateM (Machine ω)) α}
  {f : α → ExceptT ClientError (StateM (Machine ω)) β} {m m' : Machine ω} {a : α}

/-- After a part that succeeds, the program goes on with its result. -/
theorem outcome_bind_ok (h : outcome x m = (.ok a, m')) : outcome (x >>= f) m = outcome (f a) m' := by
  have hrun : x.run.run m = (.ok a, m') := h
  simp only [outcome, ExceptT.run_bind, StateT.run_bind, hrun]
  rfl

/-- A part that fails ends the program. The machine is left as it is at that
point. -/
theorem outcome_bind_error {e : ClientError} (h : outcome x m = (.error e, m')) :
    outcome (x >>= f) m = (.error e, m') := by
  have hrun : x.run.run m = (.error e, m') := h
  simp only [outcome, ExceptT.run_bind, StateT.run_bind, hrun]
  rfl

variable {ε : Type} {wrap : ε → ClientError} {act : StateM (Machine ω) (Except ε α)}

/-- What is tried comes to what it returns, with its error as one of the
program. -/
theorem outcome_attempt (wrap : ε → ClientError) (act : StateM (Machine ω) (Except ε α))
    (m : Machine ω) : outcome (attempt wrap act) m = ((act.run m).1.mapError wrap, (act.run m).2) :=
  rfl

/-- If it succeeds, the program goes on. -/
theorem outcome_attempt_ok (h : act.run m = (.ok a, m')) :
    outcome (attempt wrap act) m = (.ok a, m') := by
  rw [outcome_attempt, h]
  rfl

/-- If it fails, the program has that error. -/
theorem outcome_attempt_error {e : ε} (h : act.run m = (.error e, m')) :
    outcome (attempt wrap act) m = (.error (wrap e), m') := by
  rw [outcome_attempt, h]
  rfl

/-- What can't fail goes on with its result. -/
theorem outcome_lift {act : StateM (Machine ω) α} (h : act.run m = (a, m')) :
    outcome (ExceptT.lift act) m = (.ok a, m') := by
  change ((.ok (act.run m).1, (act.run m).2) : Except ClientError α × Machine ω) = _
  rw [h]

/-- The same of what is written without saying that it can't fail. -/
theorem outcome_liftM {act : StateM (Machine ω) α} (h : act.run m = (a, m')) :
    outcome (liftM act) m = (.ok a, m') :=
  outcome_lift h

end

/-! ### What each stage comes to -/

section

variable {net} {m} {m' m'' : Machine ω} {options} {settings : Settings} {config : ClusterConfig}

/-- Reading the configuration changes nothing. It may fail, and then its
error is one of the program. -/
theorem outcome_readConfig (named : Option String) (m : Machine ω) :
    outcome (readConfig (Machine.clientHost net) named) m =
      ((m.clusterConfig named).mapError .cluster, m) := by
  rw [readConfig, outcome_bind_ok (outcome_liftM (run_getVariable net m "HOME"))]
  cases named with
  | some file =>
    dsimp only
    rw [pure_bind, outcome_attempt, run_readConfigFile]
    rfl
  | none =>
    dsimp only
    rw [outcome_bind_ok (outcome_liftM (run_getVariable net m "XDG_CONFIG_HOME")),
      outcome_bind_ok (outcome_lift (run_defaultConfigFile net m _ _)), outcome_attempt,
      run_readConfigFile]
    rfl

/-- An open log gets its first line at once. -/
theorem outcome_openLog_ok (h : (Machine.openLog (m.logPath config)).run m = (.ok (), m')) :
    outcome (openLog (Machine.clientHost net) config) m = (.ok (), m'.logged "omapbench starts") := by
  have hopen : ((Machine.clientHost net).openLog (m.logPath config)).run m = (.ok (), m') := h
  rw [openLog, outcome_bind_ok (outcome_lift (run_expand net m config)),
    outcome_bind_ok (outcome_attempt_ok hopen)]
  rfl

/-- If the log can't be opened, the program ends there. -/
theorem outcome_openLog_error {e : FileError}
    (h : (Machine.openLog (m.logPath config)).run m = (.error e, m')) :
    outcome (openLog (Machine.clientHost net) config) m = (.error (.log e), m') := by
  have hopen : ((Machine.clientHost net).openLog (m.logPath config)).run m = (.error e, m') := h
  rw [openLog, outcome_bind_ok (outcome_lift (run_expand net m config)),
    outcome_bind_error (outcome_attempt_error hopen)]

/-- Printing a line always succeeds on a machine. -/
theorem outcome_printLine (line : String) (m : Machine ω) :
    outcome (printLine (Machine.clientHost net) line) m = (.ok (), m.prints [line]) := by
  simp only [Machine.prints, unlines, String.append_empty, ← String.append_assoc]
  rfl

/-- And so does printing several, in order. -/
theorem outcome_printLines (lines : List String) (m : Machine ω) :
    outcome (lines.forM (printLine (Machine.clientHost net))) m = (.ok (), m.prints lines) := by
  induction lines generalizing m with
  | nil =>
    rw [Machine.prints_nil]
    rfl
  | cons line lines ih =>
    change outcome (printLine (Machine.clientHost net) line >>= fun _ =>
      lines.forM (printLine (Machine.clientHost net))) m = _
    rw [outcome_bind_ok (outcome_printLine line m), ih, ← Machine.prints_append, List.singleton_append]

/-- A display is put up, or none is asked for. -/
theorem outcome_progressBar (options : ClientOptions) (settings : Settings) (m : Machine ω) :
    outcome (ExceptT.lift (progressBar (Machine.clientHost net) options settings)) m =
      (.ok (displayOf options settings), m.displaying options settings) := by
  refine outcome_lift ?_
  rw [progressBar, displayOf, Machine.displaying]
  split <;> rfl

/-! ### What the whole program comes to -/

/-- What is left to do when the run is over. None of it can change how the
program exits. -/
def closing (net : Network (StateM ω)) (session : Session) (config : ClusterConfig)
    (performance : Performance) : ExceptT ClientError (StateM (Machine ω)) Unit := do
  (performance.report (← (Machine.clientHost net).now)).forM fun line =>
    (Machine.clientHost net).log line
  ExceptT.lift (logMapSize (Machine.clientHost net) session config.object)
  (Machine.clientHost net).close session
  (Machine.clientHost net).log "omapbench ends successfully"

/-- The stages that need the store. Before them nothing but the log has been
opened. -/
def working (net : Network (StateM ω)) (options : ClientOptions) (settings : Settings)
    (config : ClusterConfig) : ExceptT ClientError (StateM (Machine ω)) Unit := do
  let session ← attempt .session ((Machine.clientHost net).connect config)
  let progress ← ExceptT.lift (progressBar (Machine.clientHost net) options settings)
  let performance ← measure (Machine.clientHost net) session settings config.object progress
  closing net session config performance

/-- Settings that are accepted are what the program goes on with. -/
theorem outcome_settings_ok (h : options.settings m.debugs = .ok settings) :
    outcome (orElseEnd ClientError.settings (options.settings (m.environment.lookup "DEBUG").isSome)) m =
      (.ok settings, m) := by
  rw [Machine.debugs] at h
  rw [h]
  rfl

/-- Settings that are refused end the program at once. -/
theorem outcome_settings_error {e : SettingsError} (h : options.settings m.debugs = .error e) :
    outcome (orElseEnd ClientError.settings (options.settings (m.environment.lookup "DEBUG").isSome)) m =
      (.error (.settings e), m) := by
  rw [Machine.debugs] at h
  rw [h]
  rfl

/-- A configuration that is accepted is what the program goes on with. -/
theorem outcome_config_ok (h : m.clusterConfig options.config = .ok config) :
    outcome (readConfig (Machine.clientHost net) options.config) m = (.ok config, m) := by
  rw [outcome_readConfig, h]
  rfl

/-- The program gets as far as the store. By then the log is open and the
summary is printed. -/
theorem outcome_of_begins (h : Begins options m settings config m') :
    outcome (benchmark (Machine.clientHost net) options) m =
      outcome (working net options settings config) (m'.begun settings) := by
  rw [benchmark, outcome_bind_ok (outcome_liftM (run_getVariable net m "DEBUG")),
    outcome_bind_ok (outcome_settings_ok h.accepted), outcome_bind_ok (outcome_config_ok h.configured),
    outcome_bind_ok (outcome_openLog_ok h.logs), outcome_bind_ok (outcome_printLines settings.summary _)]
  rfl

/-- With a session, the program goes on to measure. The display is put up in
between. -/
theorem outcome_of_connect {session : Session}
    (h : ((Machine.clientHost net).connect config).run m = (.ok session, m')) :
    outcome (working net options settings config) m = outcome (do
      let performance ← measure (Machine.clientHost net) session settings config.object
        (displayOf options settings)
      closing net session config performance) (m'.displaying options settings) := by
  rw [working, outcome_bind_ok (outcome_attempt_ok h),
    outcome_bind_ok (outcome_progressBar options settings m')]

/-- The program ends at the stage that fails, and nothing follows. There is
one case for each stage. -/
theorem outcome_of_stops {e : ClientError} (h : Stops net options m e m') :
    outcome (benchmark (Machine.clientHost net) options) m = (.error e, m') := by
  cases h with
  | settings refused =>
    rw [benchmark, outcome_bind_ok (outcome_liftM (run_getVariable net m "DEBUG")),
      outcome_bind_error (outcome_settings_error refused)]
  | config accepted refused =>
    rw [benchmark, outcome_bind_ok (outcome_liftM (run_getVariable net m "DEBUG")),
      outcome_bind_ok (outcome_settings_ok accepted)]
    refine outcome_bind_error ?_
    rw [outcome_readConfig, refused]
    rfl
  | log accepted configured failed =>
    rw [benchmark, outcome_bind_ok (outcome_liftM (run_getVariable net m "DEBUG")),
      outcome_bind_ok (outcome_settings_ok accepted), outcome_bind_ok (outcome_config_ok configured),
      outcome_bind_error (outcome_openLog_error failed)]
  -- From here on the log is open, and the stages are those that need the store.
  | session begins failed =>
    rw [outcome_of_begins begins, working, outcome_bind_error (outcome_attempt_error failed)]
  | setup begins connects failed =>
    rw [outcome_of_begins begins, outcome_of_connect connects]
    refine outcome_bind_error ?_
    rw [measure]
    exact outcome_bind_error (outcome_attempt_error failed)
  | run begins connects setsUp failed =>
    rw [outcome_of_begins begins, outcome_of_connect connects]
    refine outcome_bind_error ?_
    rw [measure, outcome_bind_ok (outcome_attempt_ok setsUp), outcome_bind_ok (outcome_liftM failed)]
    exact outcome_bind_error rfl

/-- The program gets to the end of the run, and tells how long it took. What
follows is only closing. -/
theorem outcome_of_succeeds {p : Passage ω} (h : Succeeds net options m p) :
    outcome (benchmark (Machine.clientHost net) options) m =
      outcome (closing net p.session p.config p.performance)
        (p.ended.prints [elapsedLine p.elapsed]) := by
  rw [outcome_of_begins h.toBegins, outcome_of_connect h.connects]
  refine outcome_bind_ok ?_
  have helapsed : outcome (orElseEnd ClientError.run (.ok p.elapsed)) p.ended = (.ok p.elapsed, p.ended) :=
    rfl
  rw [measure, outcome_bind_ok (outcome_attempt_ok h.setsUp), outcome_bind_ok (outcome_liftM h.runs)]
  dsimp only
  rw [outcome_bind_ok helapsed, outcome_bind_ok (outcome_printLine _ _)]
  rfl

end

end Client

end MapBench
