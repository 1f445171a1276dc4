/-!
# `MapBench.Text.Padded`: text in a column

A text is brought to the width of a column with blanks. The width
counts characters, and a text that is too long stays whole unless a
precision cuts it.
-/

set_option autoImplicit false

namespace MapBench

/-- Where a text stands in a column that is wider than it. -/
inductive Alignment
  | left
  | right
  | center
  deriving Repr, DecidableEq

namespace Alignment

/-- How many of `slack` blanks go before the text. A centered text
that can't stand in the middle stands one blank further left. -/
def before : Alignment → Nat → Nat
  | left, _ => 0
  | right, slack => slack
  | center, slack => slack / 2

end Alignment

/-- Fill a text up with blanks to a width. -/
def padTo (align : Alignment) (width : Nat) (cs : List Char) : List Char :=
  let slack := width - cs.length
  let front := align.before slack
  List.replicate front ' ' ++ cs ++ List.replicate (slack - front) ' '

/-- Cut a text to a precision, if one is given, and fill it up to a
width. -/
def column (align : Alignment) (width : Nat) (precision : Option Nat) (cs : List Char) :
    List Char :=
  padTo align width (match precision with
    | some p => cs.take p
    | none => cs)

end MapBench
