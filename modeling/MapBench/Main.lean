import MapBench.Client.Program
import MapBench.Outside.Connections
import MapBench.Outside.Files
import MapBench.Server.Program
import Std.Time

/-!
# `MapBench.Main`: the programs

The benchmark and its server are one program, which looks at its name
to see which of them it is.
-/

set_option autoImplicit false

namespace MapBench.Outside

/-- A session, and the store file behind it if it is local. -/
structure OpenSession where
  session : Session
  file : Option StoreFile
  timeout : Option Nat

namespace OpenSession

/-- Connect to the store of a configuration. -/
def connect (config : ClusterConfig) : IO (Except SessionError OpenSession) := do
  match config.location with
  | .onDisk path =>
    let opened ← StoreFile.openBy path (LocalSession.connect path config.pool)
      [.createPool config.pool]
    return opened.map fun (file, s) => ⟨.onDisk s, some file, none⟩
  | .remote url =>
    let opened ← RemoteSession.connect (network config.timeout) url config.pool
    return opened.map fun s => ⟨.remote s, none, config.timeout⟩

/-- The operations of a session. -/
def storage (s : OpenSession) : StorageSession IO WriteOp :=
  match s.session, s.file with
  | .onDisk session, some file =>
    file.keep session.pool ((session.storage.lift file.act).widen .pairs WriteOp.pairs?)
  | .onDisk session, none =>
    (session.storage.lift fun act => return (act (.ofTree ⟨∅, []⟩)).1).widen .pairs WriteOp.pairs?
  | .remote session, _ =>
    (session.storage (network s.timeout)).widen .body WriteOp.body?

end OpenSession

/-- Open the log file, after making the directories above it. -/
def openLog (log : IO.Ref (Option IO.FS.Handle)) (path : String) : IO (Except FileError Unit) :=
  withFile do
    if let some parent := (Path.parent? path).filter (· ≠ "") then
      IO.FS.createDirAll parent
    log.set (some (← IO.FS.Handle.mk path .append))

/-- Write a line to the log, if it is open. A log that takes no line
ends nothing. -/
def writeLog (log : IO.Ref (Option IO.FS.Handle)) (line : String) : IO Unit := do
  if let some handle ← log.get then
    try
      handle.putStrLn line
      handle.flush
    catch e => host.complain ("log4rs: " ++ e.toString)

/-- Read the wall clock. -/
def wallClock : IO Timestamp := do
  return .ofNanoseconds (← Std.Time.Timestamp.now).toNanosecondsSinceUnixEpoch.val.toNat

/-- Let time pass, rounded up to milliseconds. -/
def pause (d : Duration) : IO Unit :=
  IO.sleep ((d.nanoseconds + 999999) / 1000000).toUInt32

/-- A line on a terminal that tells how many pairs were written. -/
def progressBar (planned : Nat) : IO (ProgressBar IO) := do
  let written ← IO.mkRef 0
  let terminal ← IO.getStderr
  let visible ← terminal.isTty
  let draw : IO Unit := do
    if visible then
      terminal.putStr ("\r" ++ Decimal.text (← written.get) ++ "/" ++ Decimal.text planned)
  draw
  return {
    advance := fun pairs => do
      written.modify (· + pairs)
      draw
    finish := do
      if visible then terminal.putStr "\n" }

/-- What the benchmark needs. -/
def clientHost (log : IO.Ref (Option IO.FS.Handle)) : ClientHost IO OpenSession WriteOp where
  toHost := host
  getVariable name := IO.getEnv name
  openLog := openLog log
  log := writeLog log
  connect := OpenSession.connect
  storage := OpenSession.storage
  close _ := return ()
  now := IO.monoNanosNow
  wallClock := wallClock
  pause := pause
  progressBar := progressBar

/-- The change that a request made, if it was carried out. -/
def changeOf (request : Api.Request) (answer : Api.Answer) : Option StoreChange :=
  if answer.status ≠ 200 then none
  else
    match request.action with
    | .ok (.writeObject id data) => some (.replaceData id data)
    | .ok (.removeObject id) => some (.removeObject id)
    | .ok (.writeEntries id batch) => some (.writeEntries id batch)
    | _ => none

/-- Answer a request from a store file. -/
def answerFrom (file : StoreFile) (handle : Nat) (request : Api.Request) : IO Api.Answer := do
  -- The request is carried out on the disk before its change is put down.
  let answered ← file.act (Disk.onStore handle (ExceptT.lift (Api.handle request)))
  match answered with
  | .ok answer =>
    if let some change := changeOf request answer then file.record change
    return answer
  | .error _ => return Api.bare 500

/-- What the server needs. -/
def serverHost : ServerHost IO (StoreFile × Nat) where
  toHost := host
  isKnown address := do
    if address.isKnown then return true
    try
      return !(← (addresses address.host address.port).block).isEmpty
    catch _ => return false
  openStore config :=
    StoreFile.openBy config.data config.openStore (config.pools.map .createPool)
  serve config address store := do
    if config.tlsKey.isSome then host.complain "connections can't be encrypted"
    else
      try
        (listen address.host address.port (answerFrom store.1 store.2)).block
      catch e => host.complain e.toString

end MapBench.Outside

/-- Run the program that the name of the executable asks for. -/
def main (arguments : List String) : IO UInt32 := do
  let name := (← IO.appPath).fileName.getD ""
  if name = MapBench.Server.interface.program then
    MapBench.Server.execute MapBench.Outside.serverHost arguments
  else
    let log ← IO.mkRef none
    MapBench.Client.execute (MapBench.Outside.clientHost log) arguments
