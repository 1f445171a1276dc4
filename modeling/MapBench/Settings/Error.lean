/-!
# `MapBench.Settings.Error`: what is wrong with a setting

The settings of a run come as text. Each way in which a text can be
refused is a cause of its own and keeps the text, so that the message
can quote it.
-/

set_option autoImplicit false

namespace MapBench

/-- Why settings are refused. -/
inductive SettingsError
  /-- Not a whole number in decimal, or zero spelled otherwise than
  by the one digit. -/
  | notAnInteger (text : String)
  /-- A number that must be greater than zero is not. -/
  | notPositive (text : String)
  /-- A number that must not be negative is. -/
  | negative (text : String)
  /-- A number too large for a word of 64 bits. -/
  | outOfRange (text : String)
  /-- An operation nobody knows. -/
  | invalidOperation (text : String)
  /-- Not a number of seconds from 0 to 3600. -/
  | badThinkTime (text : String)
  /-- Reading is known as an operation, but can't be measured. -/
  | readNotSupported
  deriving Repr, DecidableEq

/-- What is said about refused settings. -/
def SettingsError.message : SettingsError → String
  | notAnInteger text => text ++ ": not an integer"
  | notPositive text => text ++ ": not a positive integer value"
  | negative text => text ++ ": not a non-negative integer value"
  | outOfRange text => text ++ ": integer out of range"
  | invalidOperation text => text ++ ": invalid operation type"
  | badThinkTime text => text ++ ": think time must be between 0 and 3600 seconds"
  | readNotSupported => "read: read not yet supported"

end MapBench
