import MapBench.Client.Error
import MapBench.Client.Host
import MapBench.Client.LogFile
import MapBench.Cluster.DefaultFile
import MapBench.Run.Basic

/-!
# `MapBench.Client.Program`: the benchmark program

The program goes through its steps one after another, and the first
that fails ends it: the settings, the configuration, the log file, a
summary of what is to be done, the session, a fresh object, and the
run. Nothing touches the store before the session is opened.

* `Client.benchmark`: the steps.
* `Client.execute`: the whole program, from its arguments to its exit
  status.
-/

set_option autoImplicit false

namespace MapBench.Client

variable {m : Type → Type} [Monad m] {σ ω : Type} (host : ClientHost m σ ω)

/-- Print a line of output. -/
def printLine (line : String) : ExceptT ClientError m Unit :=
  attempt .output (host.printLine line)

/-- Read the configuration from the file that is named, or from the
one to read otherwise. -/
def readConfig (named : Option String) : ExceptT ClientError m ClusterConfig := do
  let home ← host.getVariable "HOME"
  let file ← match named with
    | some file => pure file
    | none =>
      let configHome ← host.getVariable "XDG_CONFIG_HOME"
      ExceptT.lift (defaultConfigFile host.hasEntry home configHome)
  attempt .cluster (ClusterConfig.read host.toFileReader home file).run

/-- Open the log of a configuration. -/
def openLog (config : ClusterConfig) : ExceptT ClientError m Unit := do
  let path ← ExceptT.lift (LogFile.expand host.getVariable config.log)
  attempt .log (host.openLog path)
  host.log "omapbench starts"

/-- A display for the run, if one is asked for. -/
def progressBar (options : ClientOptions) (settings : Settings) : m (Option (ProgressBar m)) :=
  if options.progress then some <$> host.progressBar settings.plannedPairs else return none

/-- Put down how many entries the map of an object has. The run is
over, so it doesn't matter if that fails. -/
def logMapSize (session : σ) (object : String) : m Unit := do
  match ← (host.storage session).mapSize object with
  | .ok entries =>
    host.log ("object " ++ object ++ " has " ++ Decimal.text entries ++ " map entries")
  | .error e => host.log ("cannot count map entries of " ++ object ++ ": " ++ e.message)

/-- The line that tells how long a run took. -/
def elapsedLine (elapsed : Elapsed) : String :=
  "elapsed time = " ++ elapsed.text ++ " sec"

/-- Set up and measure a run. -/
def measure (session : σ) (settings : Settings) (object : String)
    (progress : Option (ProgressBar m)) : ExceptT ClientError m Performance := do
  attempt .run (Run.setup (host.storage session) object)
  let (result, performance) ←
    (Run.perform (host.testbed session progress) settings object).run .empty
  let elapsed ← orElseEnd .run result
  printLine host (elapsedLine elapsed)
  return performance

/-- The steps of the program. -/
def benchmark (options : ClientOptions) : ExceptT ClientError m Unit := do
  let debug ← host.getVariable "DEBUG"
  let settings ← orElseEnd .settings (options.settings debug.isSome)
  let config ← readConfig host options.config
  openLog host config
  -- The summary is printed before anything can go wrong with the store.
  settings.summary.forM (printLine host)
  let session ← attempt .session (host.connect config)
  let progress ← ExceptT.lift (progressBar host options settings)
  let performance ← measure host session settings config.object progress
  -- Only a run that succeeded is reported.
  (performance.report (← host.now)).forM fun line => host.log line
  ExceptT.lift (logMapSize host session config.object)
  host.close session
  host.log "omapbench ends successfully"

/-- Complain about an error, and give the exit status. -/
def fail (e : ClientError) : m UInt32 := do
  host.complain e.report
  return 1

/-- The whole program. -/
def execute (arguments : List String) : m UInt32 := do
  match ClientOptions.parse arguments with
  | .error .help =>
    discard (host.printLine ClientOptions.interface.help)
    return 0
  | .error e => fail host (.usage e)
  | .ok options =>
    match ← (benchmark host options).run with
    | .ok () => return 0
    | .error e =>
      -- Before the log is open this does nothing.
      host.log e.message
      fail host e

end MapBench.Client
