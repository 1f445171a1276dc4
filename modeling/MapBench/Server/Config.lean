import MapBench.Cluster.Config

/-!
# `MapBench.Server.Config`: how the server runs

* `ServerConfig.ofText?`: the configuration that a file gives.
* `ServerConfig.check`: the first rule that it breaks. Some rules ask
  whether files exist.
* `ServerConfig.openStore`: what a server does to its store before it
  listens: it makes the pools that are configured.
-/

set_option autoImplicit false

namespace MapBench

/-- The configuration of a server. -/
structure ServerConfig where
  /-- Where to listen, as a host and a port. -/
  address : String
  /-- The store file. -/
  data : String
  /-- The pools that clients may use. -/
  pools : List String
  tlsKey : Option String
  tlsCert : Option String
  deriving Repr, DecidableEq

/-- Why a server's configuration is refused. -/
inductive ServerConfigError
  | dataDirNotFound (directory : String)
  | noPools
  /-- Only one of key and certificate is given. -/
  | partialTls
  | tlsKeyNotFound (file : String)
  | tlsCertNotFound (file : String)
  | unreadable (file : String) (cause : FileError)
  | malformed (file : String)
  deriving Repr, DecidableEq

/-- What is said about a refused configuration. -/
def ServerConfigError.message : ServerConfigError → String
  | dataDirNotFound directory =>
    "Directory for object store " ++ directory ++ " does not exist"
  | noPools => "At least one pool must be configured"
  | partialTls => "tls_key and tls_cert must be set together"
  | tlsKeyNotFound file => "TLS key " ++ file ++ " does not exist"
  | tlsCertNotFound file => "TLS certificate " ++ file ++ " does not exist"
  | unreadable file cause => "failed to read configuration file " ++ file ++ ": " ++ cause.message
  | malformed file => "failed to parse configuration file " ++ file ++ " as YAML: invalid document"

namespace ServerConfig

/-- The names of the fields in a file. -/
def names : List String :=
  ["address", "data", "pools", "tls_key", "tls_cert"]

/-- The configuration that a document gives. -/
def ofNode? (node : Yaml.Node) : Option ServerConfig := do
  match ← node.fields? names with
  | [some address, some data, some pools, tlsKey, tlsCert] =>
    return {
      address := ← address.text?
      data := ← data.text?
      pools := ← pools.texts?
      tlsKey := ← ClusterFields.field? Yaml.Node.text? tlsKey
      tlsCert := ← ClusterFields.field? Yaml.Node.text? tlsCert }
  | _ => none

/-- The configuration that the text of a file gives. -/
def ofText? (text : String) : Option ServerConfig :=
  (Yaml.Node.ofText? text).bind ofNode?

section

variable {m : Type → Type} [Monad m]

/-- Check that something is there. -/
def checkEntry (hasEntry : String → m Bool) (path : String) (e : ServerConfigError) :
    ExceptT ServerConfigError m Unit := do
  if !(← hasEntry path) then throw e

/-- The first rule that a configuration breaks, if any. -/
def check (hasEntry : String → m Bool) (c : ServerConfig) : ExceptT ServerConfigError m Unit := do
  if let some directory := Path.parent? c.data then
    -- A bare name is a file in the current directory, which is there.
    if directory ≠ "" then checkEntry hasEntry directory (.dataDirNotFound directory)
  if c.pools.isEmpty || c.pools.contains "" then throw .noPools
  match c.tlsKey, c.tlsCert with
  | some key, some cert =>
    checkEntry hasEntry key (.tlsKeyNotFound key)
    checkEntry hasEntry cert (.tlsCertNotFound cert)
  | none, none => return ()
  | _, _ => throw .partialTls

/-- Read and check the configuration in a file. -/
def read (files : FileReader m) (filename : String) : ExceptT ServerConfigError m ServerConfig := do
  let text ← attempt (.unreadable filename) (files.readText filename)
  match ofText? text with
  | none => throw (.malformed filename)
  | some config =>
    config.check files.hasEntry
    return config

end

/-- Make the pools of a configuration. -/
def createPools (c : ServerConfig) : StoreM Unit :=
  c.pools.forM Store.createPool

/-- Open the store of a configuration, with its pools. -/
def openStore (c : ServerConfig) : StateM Disk (Except StoreError Nat) := do
  match ← Disk.openStore c.data with
  | .error e => return .error e
  | .ok handle => return (← Disk.onStore handle c.createPools).map fun () => handle

end ServerConfig

end MapBench
