/-!
# `MapBench.Attempt`: steps that may end what they are part of

Programs go through many steps, each with errors of its own. A step
that fails ends the whole, and its error is wrapped in one of the
whole.
-/

set_option autoImplicit false

namespace MapBench

variable {m : Type → Type} [Monad m] {ε δ α : Type}

/-- Do something in the surroundings of the whole; its failure ends
the whole. -/
def attempt (wrap : ε → δ) (act : m (Except ε α)) : ExceptT δ m α :=
  ExceptT.mk do return (← act).mapError wrap

/-- Take a result that is already known; a failure ends the whole. -/
def orElseEnd (wrap : ε → δ) (result : Except ε α) : ExceptT δ m α :=
  ExceptT.mk (pure (result.mapError wrap))

end MapBench
