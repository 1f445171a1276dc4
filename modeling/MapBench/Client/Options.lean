import MapBench.CommandLine.Parse
import MapBench.Settings.Basic

/-!
# `MapBench.Client.Options`: how the benchmark is called

* `ClientOptions.interface`: the options, with their defaults.
* `ClientOptions.parse`: what arguments ask for.
* `ClientOptions.settings`: the settings of the run that they ask
  for.
-/

set_option autoImplicit false

namespace MapBench

open CommandLine

/-- What a call asks for. -/
structure ClientOptions where
  operation : Operation
  batchSize : Nat
  totalPairs : Nat
  valueSize : Nat
  thinkTime : Duration
  /-- The configuration file, if one is named. -/
  config : Option String
  progress : Bool
  deriving Repr, DecidableEq

/-- An option for a setting of a run. Its value is never left out and
may look like an option. -/
structure SettingOption (α : Type) where
  long : String
  valueName : String
  default : String
  help : String
  read : String → Except SettingsError α

namespace SettingOption

variable {α : Type}

/-- What is wrong with a value of the option. -/
def problem (o : SettingOption α) (text : String) : Option ValueProblem :=
  match o.read text with
  | .ok _ => none
  | .error e => some (.invalid e.message)

/-- The option in the terms of a command line. -/
def spec (o : SettingOption α) : OptionSpec where
  long := o.long
  short := none
  value := some ⟨o.valueName, some o.default, true, o.problem⟩
  help := o.help

/-- The setting that arguments ask for. -/
def value (o : SettingOption α) (a : Arguments) : Except UsageError α :=
  let text := (a.valueOf? o.long).getD o.default
  (o.read text).mapError fun e => .invalidValue text o.spec.text e.message

end SettingOption

namespace ClientOptions

/-- What to measure. -/
def operationOption : SettingOption Operation :=
  ⟨"operation", "OPERATION", "write", "Operation to measure: read or write", Operation.ofName⟩

/-- How many pairs a batch has. -/
def batchSizeOption : SettingOption Nat :=
  ⟨"kvpairs-per-call", "KVPAIRS_PER_CALL", "1",
    "Number of key-value pairs in each atomic map write", readPositive⟩

/-- How many pairs to write. -/
def totalPairsOption : SettingOption Nat :=
  ⟨"total-kvpairs", "TOTAL_KVPAIRS", "10", "Number of key-value pairs to write in total",
    readNonNegative⟩

/-- How many bytes a value has. -/
def valueSizeOption : SettingOption Nat :=
  ⟨"value-size", "VALUE_SIZE", "2", "Size of each value, in bytes", readSize⟩

/-- How long to pause between batches. -/
def thinkTimeOption : SettingOption Duration :=
  ⟨"think-time", "THINK_TIME", "0", "Seconds to pause after each batch, such as 0.25",
    readThinkTime⟩

/-- The name of a file has to be given if the option is. -/
def fileProblem (path : String) : Option ValueProblem :=
  if path = "" then some .missing else none

/-- Where the configuration is. -/
def configOption : OptionSpec where
  long := "config"
  short := some 'c'
  value := some ⟨"CONFIG", none, false, fileProblem⟩
  help := "Cluster configuration file"

/-- Whether to show how far the run has come. -/
def progressOption : OptionSpec where
  long := "progress"
  short := none
  value := none
  help := "Show a progress bar on stderr"

/-- The options of the benchmark. It takes no operand. -/
def interface : Interface where
  program := "omapbench"
  about := "Benchmark bulk writes into an object's key-value map"
  options := [operationOption.spec, batchSizeOption.spec, totalPairsOption.spec,
    valueSizeOption.spec, thinkTimeOption.spec, configOption, progressOption]
  operand := none
  wideHelp := true

/-- What arguments ask for. -/
def ofArguments (a : Arguments) : Except UsageError ClientOptions := do
  return {
    operation := ← operationOption.value a
    batchSize := ← batchSizeOption.value a
    totalPairs := ← totalPairsOption.value a
    valueSize := ← valueSizeOption.value a
    thinkTime := ← thinkTimeOption.value a
    config := a.valueOf? configOption.long
    progress := a.has progressOption.long }

/-- Read the arguments of a call. -/
def parse (arguments : List String) : Except UsageError ClientOptions := do
  ofArguments (← interface.parse arguments)

/-- The settings of the run that a call asks for. -/
def settings (o : ClientOptions) (debug : Bool) : Except SettingsError Settings := do
  return (← Settings.create o.operation o.batchSize o.totalPairs o.valueSize debug).pausing
    o.thinkTime

end ClientOptions

end MapBench
