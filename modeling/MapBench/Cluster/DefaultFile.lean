import MapBench.Path

/-!
# `MapBench.Cluster.DefaultFile`: the configuration file nobody names

A user may have a configuration file. If there is none, the system's
is used.
-/

set_option autoImplicit false

namespace MapBench

/-- The system's configuration file. -/
def systemConfigFile : String := "/etc/omapbench/cluster.yaml"

/-- The user's configuration file. The directory for configurations
has to be given as an absolute path, or else it is the one under the
home directory. -/
def userConfigFile (home configHome : Option String) : Option String :=
  let directory := match configHome.filter Path.isAbsolute with
    | some directory => some directory
    | none => (home.filter (· ≠ "")).map fun home => Path.push home (.name ".config")
  directory.map fun directory =>
    Path.extend directory [.name "omapbench", .name "cluster.yaml"]

/-- The file to read when none is named: the user's, if there is one,
or else the system's. -/
def defaultConfigFile {m : Type → Type} [Monad m] (hasEntry : String → m Bool)
    (home configHome : Option String) : m String := do
  match userConfigFile home configHome with
  | some file => if ← hasEntry file then return file else return systemConfigFile
  | none => return systemConfigFile

end MapBench
