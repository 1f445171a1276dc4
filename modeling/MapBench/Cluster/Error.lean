import MapBench.Files.Error

/-!
# `MapBench.Cluster.Error`: what is wrong with a client's configuration
-/

set_option autoImplicit false

namespace MapBench

/-- Why a configuration is refused. -/
inductive ClusterError
  | noLocation
  | bothLocations
  | serverUrlIsEmpty
  | notHttp (url : String)
  | poolIsEmpty
  | objectIsEmpty
  | zeroTimeout
  /-- The file can't be read. -/
  | unreadable (file : String) (cause : FileError)
  /-- The file has other fields than a configuration, or no form at
  all. -/
  | malformed (file : String)
  deriving Repr, DecidableEq

/-- What is said about a refused configuration. -/
def ClusterError.message : ClusterError → String
  | noLocation => "configuration must set either server_url or local"
  | bothLocations => "configuration must not set both server_url and local"
  | serverUrlIsEmpty => "server_url is empty"
  | notHttp url => "server URL doesn't use http or https: " ++ url
  | poolIsEmpty => "pool name is empty"
  | objectIsEmpty => "object name is empty"
  | zeroTimeout => "timeout must be at least one second"
  | unreadable file cause => "failed to read configuration file " ++ file ++ ": " ++ cause.message
  | malformed file => "failed to parse configuration file " ++ file ++ " as YAML: invalid document"

end MapBench
