/-!
# `MapBench.Files.Error`: how files fail

The system's error numbers are part of what it says.
-/

set_option autoImplicit false

namespace MapBench

/-- Why a file can't be read, made or opened. -/
inductive FileError
  | notFound
  | exists
  | notDirectory
  | isDirectory
  | nameTooLong
  /-- The name holds a NUL, which no file name may. -/
  | nulInName
  /-- The bytes of the file are no text. -/
  | notText
  /-- Something else, in the system's own words. -/
  | other (reason : String)
  deriving Repr, DecidableEq

/-- What is said about a file. -/
def FileError.message : FileError → String
  | notFound => "No such file or directory (os error 2)"
  | .exists => "File exists (os error 17)"
  | notDirectory => "Not a directory (os error 20)"
  | isDirectory => "Is a directory (os error 21)"
  | nameTooLong => "File name too long (os error 36)"
  | nulInName => "file name contained an unexpected NUL byte"
  | notText => "stream did not contain valid UTF-8"
  | other reason => reason

end MapBench
