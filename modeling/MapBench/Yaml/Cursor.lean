/-!
# `MapBench.Yaml.Cursor`: a place in a YAML text

The place is known by the characters that are left, how many were
read, and the line and column. A NUL character is taken for the end
of a text, and looking past the end shows one. Only a line feed begins
a new line of the count; a carriage return ends a line of text, but
the columns go on.
-/

set_option autoImplicit false

namespace MapBench.Yaml

/-- A place in a text. -/
structure Cursor where
  rest : List Char
  index : Nat
  line : Nat
  column : Nat
  deriving Repr

namespace Cursor

/-- The beginning of a text. -/
def ofText (text : String) : Cursor :=
  ⟨text.toList.takeWhile (· ≠ '\x00'), 0, 1, 0⟩

/-- The character `n` places ahead. -/
def peek (c : Cursor) (n : Nat) : Char :=
  (c.rest.drop n).headD '\x00'

/-- The next character. -/
def head (c : Cursor) : Char :=
  c.rest.headD '\x00'

/-- Is the text at its end? -/
def atEnd (c : Cursor) : Bool :=
  c.rest.isEmpty

/-- Read one character. -/
def next (c : Cursor) : Cursor :=
  match c.rest with
  | [] => c
  | x :: rest =>
    if x = '\n' then ⟨rest, c.index + 1, c.line + 1, 0⟩
    else ⟨rest, c.index + 1, c.line, c.column + 1⟩

/-- Read several characters. -/
def skip (c : Cursor) : Nat → Cursor
  | 0 => c
  | n + 1 => c.next.skip n

/-- Read characters for as long as they have a property. -/
def skipWhile (c : Cursor) (p : Char → Bool) : Cursor :=
  c.skip (c.rest.takeWhile p).length

/-- The characters ahead that have a property. -/
def ahead (c : Cursor) (p : Char → Bool) : List Char :=
  c.rest.takeWhile p

end Cursor

/-- Does the character end a line? -/
def isBreak (c : Char) : Bool :=
  c == '\n' || c == '\r'

/-- Does the character end a line, or the text? -/
def isBreakOrEnd (c : Char) : Bool :=
  isBreak c || c == '\x00'

/-- Is the character a blank? -/
def isBlank (c : Char) : Bool :=
  c == ' ' || c == '\t'

/-- Is there nothing to read: a blank, or the end of a line or of the
text? -/
def isGap (c : Char) : Bool :=
  isBlank c || isBreakOrEnd c

/-- May the character be part of a name? -/
def isWordChar (c : Char) : Bool :=
  c.isAlphanum || c == '_' || c == '-'

/-- Does the character structure flow collections? -/
def isFlowMark (c : Char) : Bool :=
  c == ',' || c == '[' || c == ']' || c == '\x7b' || c == '\x7d'

namespace Cursor

/-- Read the end of a line, which may take two characters. -/
def skipBreak (c : Cursor) : Cursor :=
  if c.head == '\r' && c.peek 1 == '\n' then c.skip 2
  else if isBreak c.head then c.next
  else c

/-- Read to the end of the line. -/
def skipLine (c : Cursor) : Cursor :=
  c.skipWhile fun x => !isBreakOrEnd x

/-- Read a comment, if there is one. -/
def skipComment (c : Cursor) : Cursor :=
  if c.head == '#' then c.skipLine else c

/-- Does a mark that separates documents stand here: three dashes or
dots at the beginning of a line? -/
def atDocumentMark (c : Cursor) (mark : Char) : Bool :=
  c.column == 0 && c.head == mark && c.peek 1 == mark && c.peek 2 == mark && isGap (c.peek 3)

/-- Does any mark that separates documents stand here? -/
def atAnyDocumentMark (c : Cursor) : Bool :=
  c.atDocumentMark '-' || c.atDocumentMark '.'

end Cursor

end MapBench.Yaml
