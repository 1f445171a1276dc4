import MapBench.Host
import MapBench.Server.Error

/-!
# `MapBench.Server.Program`: the server program

The server reads its configuration, opens its store, makes the pools
that it is to have, and listens. It only ends when something fails.

* `Server.start`: the steps before it listens.
* `Server.execute`: the whole program, from its arguments to its exit
  status.
-/

set_option autoImplicit false

namespace MapBench

/-- What the server needs around it. Stores are of type `σ`. -/
structure ServerHost (m : Type → Type) (σ : Type) extends Host m where
  /-- Is the host of an address known? -/
  isKnown : ListenAddress → m Bool
  /-- Open the store of a configuration, with its pools. -/
  openStore : ServerConfig → m (Except StoreError σ)
  /-- Answer requests, until that fails. -/
  serve : ServerConfig → ListenAddress → σ → m Unit

namespace Server

open CommandLine

/-- The only argument of the server is its configuration file. -/
def interface : Interface where
  program := "omapbench-server"
  about := "Object store server for omapbench"
  options := []
  operand := some ⟨"CONFIG", none, false, fun path => if path = "" then some .missing else none⟩
  wideHelp := false

/-- The configuration file that arguments name. -/
def configFile (arguments : List String) : Except UsageError String := do
  return ((← interface.parse arguments).operand?).getD ""

/-- The exit status of a server that listened, or tried to. -/
def stoppedStatus : UInt32 := 101

variable {m : Type → Type} [Monad m] {σ : Type} (host : ServerHost m σ)

/-- The address of a configuration, if its host is known. -/
def findAddress (config : ServerConfig) : ExceptT ServerError m ListenAddress := do
  let address ← orElseEnd .address (ListenAddress.parse config.address)
  if ← host.isKnown address then return address else throw (.address .unknownHost)

/-- What a server needs to listen: its configuration, its address and
its store. -/
def start (file : String) : ExceptT ServerError m (ServerConfig × ListenAddress × σ) := do
  let config ← attempt (.config file) (ServerConfig.read host.toFileReader file).run
  -- The address is looked up before the store is touched.
  let address ← findAddress host config
  let store ← attempt .store (host.openStore config)
  return (config, address, store)

/-- Complain about an error, and give the exit status. -/
def fail (e : ServerError) : m UInt32 := do
  host.complain e.report
  return e.exitStatus

/-- The whole program. -/
def execute (arguments : List String) : m UInt32 := do
  match configFile arguments with
  | .error .help =>
    discard (host.printLine interface.help)
    return 0
  | .error e => fail host (.usage e)
  | .ok file =>
    match ← (start host file).run with
    | .error e => fail host e
    | .ok (config, address, store) =>
      -- Serving only ends when something has gone wrong.
      host.serve config address store
      return stoppedStatus

end Server

end MapBench
