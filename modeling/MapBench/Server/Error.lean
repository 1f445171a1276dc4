import MapBench.CommandLine.Parse
import MapBench.Server.Address
import MapBench.Server.Config

/-!
# `MapBench.Server.Error`: how a server fails to start

The exit status tells wrong arguments from all else. A complaint names
the causes of an error below it.
-/

set_option autoImplicit false

namespace MapBench

/-- Why a server can't be started. -/
inductive ServerError
  /-- The arguments are wrong. -/
  | usage (cause : CommandLine.UsageError)
  /-- The configuration is refused. -/
  | config (file : String) (cause : ServerConfigError)
  /-- The address to listen at can't be used. -/
  | address (cause : AddressError)
  /-- The store can't be opened, or its pools can't be made. -/
  | store (cause : StoreError)
  deriving Repr, DecidableEq

/-- A text whose lines after the first begin with blanks. -/
def indentedBy (width : Nat) (text : String) : String :=
  ("\n" ++ String.ofList (List.replicate width ' ')).intercalate (text.splitOn "\n")

/-- A message, with its causes below it. Several causes are
numbered. -/
def withCauses (message : String) (causes : List String) : String :=
  match causes with
  | [] => message
  | [cause] => message ++ "\n\nCaused by:\n    " ++ indentedBy 4 cause
  | causes =>
    message ++ "\n\nCaused by:" ++ String.join (causes.zipIdx.map fun (cause, i) =>
      "\n    " ++ Decimal.text i ++ ": " ++ indentedBy 7 cause)

/-- What the system's code of a failed statement stands for. -/
def StatementError.code : StatementError → String
  | noSuchTable _ => "Error code 1: SQL error or missing database"
  | emptyKey => "Error code 275: A CHECK constraint failed"
  | tooBig => "Error code 18: String or BLOB exceeds size limit"
  | notAStore => "Error code 26: File opened that is not a database file"

/-- What caused a store to fail. -/
def StoreError.causes : StoreError → List String
  | cannotOpen file =>
    ["unable to open database file: " ++ file,
      "Error code 14: Unable to open the database file"]
  | noSuchPool _ => []
  | statement cause => [cause.code]

namespace ServerError

/-- What is said about a failed start. -/
def report : ServerError → String
  | usage cause => "error: " ++ cause.message
  | config file cause =>
    withCauses ("Error: Couldn't read default configuration file " ++ file) [cause.message]
  | address cause => "Error: " ++ cause.message
  | store cause => withCauses ("Error: " ++ cause.message) cause.causes

/-- The exit status of a failed start. -/
def exitStatus : ServerError → UInt32
  | usage _ => 2
  | _ => 1

end ServerError

end MapBench
