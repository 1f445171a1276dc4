import MapBench.Client.Options
import MapBench.Cluster.Error
import MapBench.Run.Error
import MapBench.Text.Blank

/-!
# `MapBench.Client.Error`: how the benchmark fails

Every failure ends the program. It says what is wrong, and how the
program is used.
-/

set_option autoImplicit false

namespace MapBench

/-- Why the benchmark ends without a result. -/
inductive ClientError
  /-- The arguments are wrong. -/
  | usage (cause : CommandLine.UsageError)
  /-- The settings are refused. -/
  | settings (cause : SettingsError)
  /-- The configuration is refused. -/
  | cluster (cause : ClusterError)
  /-- The log file can't be opened. -/
  | log (cause : FileError)
  /-- Output can't be written. -/
  | output (cause : OutputError)
  /-- The store can't be reached. -/
  | session (cause : SessionError)
  /-- The run failed. -/
  | run (cause : RunError)
  deriving Repr, DecidableEq

namespace ClientError

/-- What is wrong. -/
def message : ClientError → String
  | usage cause => cause.message
  | settings cause => cause.message
  | cluster cause => cause.message
  | log cause => cause.message
  | output cause => cause.reason
  | session cause => cause.message
  | run cause => cause.message

/-- What is wrong, and how the program is used. -/
def report (e : ClientError) : String :=
  "ERROR: " ++ trimBlanksAtEnd e.message ++ "\n\n" ++ ClientOptions.interface.usage

end ClientError

end MapBench
