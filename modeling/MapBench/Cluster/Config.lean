import MapBench.Attempt
import MapBench.Cluster.Error
import MapBench.Files.Reader
import MapBench.Session.Basic
import MapBench.Yaml.Record

/-!
# `MapBench.Cluster.Config`: how the benchmark reaches a store

A configuration file has seven fields, all of which may be left out.
Exactly one of them has to say where the store is.

* `ClusterFields.ofText?`: the fields that a file gives.
* `ClusterConfig.ofFields`: the configuration they make, or the first
  rule that they break.
* `ClusterConfig.read`: the configuration in a file.
-/

set_option autoImplicit false

namespace MapBench

/-- The fields of a configuration file. -/
structure ClusterFields where
  serverUrl : Option String
  localFile : Option String
  pool : Option String
  object : Option String
  verifyTlsCert : Option Bool
  timeout : Option Nat
  log : Option String
  deriving Repr, DecidableEq

namespace ClusterFields

/-- The names of the fields in a file. -/
def names : List String :=
  ["server_url", "local", "pool", "object", "verify_tls_cert", "timeout", "log"]

/-- Read a field that may be left out. -/
def field? {α : Type} (read : Yaml.Node → Option α) : Option Yaml.Node → Option (Option α)
  | none => some none
  | some node => Yaml.Node.option? read node

/-- The fields that a document gives. -/
def ofNode? (node : Yaml.Node) : Option ClusterFields := do
  match ← node.fields? names with
  | [serverUrl, localFile, pool, object, verify, timeout, log] =>
    return {
      serverUrl := ← field? Yaml.Node.text? serverUrl
      localFile := ← field? Yaml.Node.text? localFile
      pool := ← field? Yaml.Node.text? pool
      object := ← field? Yaml.Node.text? object
      verifyTlsCert := ← field? Yaml.Node.bool? verify
      timeout := ← field? Yaml.Node.word? timeout
      log := ← field? Yaml.Node.text? log }
  | _ => none

/-- The fields that the text of a file gives. -/
def ofText? (text : String) : Option ClusterFields :=
  (Yaml.Node.ofText? text).bind ofNode?

end ClusterFields

/-- How the benchmark reaches a store, and what it writes there. -/
structure ClusterConfig where
  /-- The file that says so. -/
  filename : String
  location : StoreLocation
  pool : String
  object : String
  /-- Whether a server has to prove who it is. -/
  verifyTlsCert : Bool
  /-- After how many seconds a request is given up. -/
  timeout : Option Nat
  /-- The file for log lines. -/
  log : String
  deriving Repr, DecidableEq

namespace ClusterConfig

/-- The pool, object and log file of a configuration that names
none. -/
def defaultPool : String := "ben"
def defaultObject : String := "hw"
def defaultLog : String := "/dev/null"

/-- Where the store is, if the fields say so once. -/
def locationOf (home : Option String) (f : ClusterFields) : Except ClusterError StoreLocation :=
  match f.serverUrl, f.localFile with
  | some url, none => .ok (.remote url)
  | none, some path => .ok (.onDisk (Path.expandHome home path))
  | some _, some _ => .error .bothLocations
  | none, none => .error .noLocation

/-- Does an address belong to the web? -/
def isWebAddress (url : String) : Bool :=
  "https://".toList.isPrefixOf url.toList || "http://".toList.isPrefixOf url.toList

/-- The first rule that a configuration breaks, if any. -/
def check (c : ClusterConfig) : Except ClusterError Unit := do
  if let .remote url := c.location then
    if url = "" then throw .serverUrlIsEmpty
    if !isWebAddress url then throw (.notHttp url)
  if c.pool = "" then throw .poolIsEmpty
  if c.object = "" then throw .objectIsEmpty
  if c.timeout = some 0 then throw .zeroTimeout

/-- The configuration that fields make. Paths that begin with `~` are
moved under `home`. -/
def ofFields (home : Option String) (filename : String) (f : ClusterFields) :
    Except ClusterError ClusterConfig := do
  let location ← locationOf home f
  let config : ClusterConfig := {
    filename
    location
    pool := f.pool.getD defaultPool
    object := f.object.getD defaultObject
    verifyTlsCert := f.verifyTlsCert.getD false
    timeout := f.timeout
    log := (f.log.map (Path.expandHome home)).getD defaultLog }
  config.check
  return config

/-- The configuration in the text of a file. -/
def parse (home : Option String) (filename text : String) : Except ClusterError ClusterConfig :=
  match ClusterFields.ofText? text with
  | none => .error (.malformed filename)
  | some fields => ofFields home filename fields

/-- The configuration in a file. -/
def read {m : Type → Type} [Monad m] (files : FileReader m) (home : Option String)
    (filename : String) : ExceptT ClusterError m ClusterConfig := do
  let text ← attempt (.unreadable filename) (files.readText filename)
  orElseEnd id (parse home filename text)

end ClusterConfig

end MapBench
