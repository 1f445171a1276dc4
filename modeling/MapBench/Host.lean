import MapBench.Files.Reader
import MapBench.Run.Error

/-!
# `MapBench.Host`: what every program needs around it

A program looks at files and prints lines, either as its output or as
a complaint. It does so in a monad `m`, and doesn't ask which.
-/

set_option autoImplicit false

namespace MapBench

/-- What every program needs around it. -/
structure Host (m : Type → Type) extends FileReader m where
  /-- Print a line of output. -/
  printLine : String → m (Except OutputError Unit)
  /-- Print a line where complaints go. -/
  complain : String → m Unit

end MapBench
