import MapBench.Text.Hex
import MapBench.Yaml.Cursor

/-!
# `MapBench.Yaml.Scalar`: the three ways to write a scalar

Plain scalars run until something in them means structure; quoted
ones until their closing quote; block scalars for as long as lines are
indented. Line ends inside the first two are folded: one becomes a
blank, and of several the first one is left out. A block scalar keeps
them (`|`) or folds them (`>`).

The loops carry a bound on their steps. It is the number of
characters that are left, and every step but the last reads one.
-/

set_option autoImplicit false

namespace MapBench.Yaml

/-- Text that is being read, with the blanks and line ends that were
met since the last other character. -/
structure Folding where
  /-- What was read, last first. -/
  rev : List Char
  /-- Blanks on the same line, last first. -/
  blanks : List Char
  /-- Was a line end met? -/
  onNewLine : Bool
  /-- Was the first of those line ends a plain one? -/
  firstBreak : Bool
  /-- How many more line ends were met. -/
  moreBreaks : Nat

namespace Folding

/-- Nothing read yet. -/
def start : Folding := ⟨[], [], false, false, 0⟩

/-- Write what the blanks and line ends amount to. -/
def join (f : Folding) : Folding :=
  let rev :=
    if f.onNewLine then
      -- A single line end is a blank; of several, the first one is left out.
      if f.firstBreak && f.moreBreaks == 0 then ' ' :: f.rev
      else List.replicate f.moreBreaks '\n' ++ f.rev
    else f.blanks ++ f.rev
  ⟨rev, [], false, false, 0⟩

/-- Meet a blank. On a new line it means nothing. -/
def blank (f : Folding) (c : Char) : Folding :=
  if f.onNewLine then f else { f with blanks := c :: f.blanks }

/-- Meet a line end. -/
def lineEnd (f : Folding) : Folding :=
  if f.onNewLine then { f with moreBreaks := f.moreBreaks + 1 }
  else { f with blanks := [], onNewLine := true, firstBreak := true }

/-- Read characters. -/
def push (f : Folding) (cs : List Char) : Folding :=
  { f with rev := cs.reverse ++ f.rev }

end Folding

/-- Read blanks and line ends. A tab on a new line left of `indent`
is refused. -/
def skipGaps (indent : Int) : Nat → Cursor → Folding → Option (Cursor × Folding)
  | 0, c, f => some (c, f)
  | n + 1, c, f =>
    if isBlank c.head then
      if f.onNewLine && decide ((c.column : Int) < indent) && c.head == '\t' then none
      else skipGaps indent n c.next (f.blank c.head)
    else if isBreak c.head then skipGaps indent n c.skipBreak f.lineEnd
    else some (c, f)

/-- The characters of a plain scalar up to the next gap, or to where
it ends. -/
def plainWord (inFlow : Bool) : List Char → List Char
  | [] => []
  | c :: cs =>
    let next := cs.headD '\x00'
    if isGap c then []
    -- A colon with a gap behind it ends a key.
    else if c == ':' && (isGap next || (inFlow && isFlowMark next)) then []
    else if inFlow && isFlowMark c then []
    else c :: plainWord inFlow cs

/-- Read a plain scalar word by word. -/
def plainWords (inFlow : Bool) (indent : Int) :
    Nat → Cursor → Folding → Option (Cursor × Folding)
  | 0, c, f => some (c, f)
  | n + 1, c, f =>
    if c.atAnyDocumentMark || c.head == '#' then some (c, f)
    else
      let word := plainWord inFlow c.rest
      let c := c.skip word.length
      -- Blanks count only if something follows them.
      let f := if word.isEmpty then f else f.join.push word
      if isBlank c.head || isBreak c.head then
        match skipGaps indent c.rest.length c f with
        | none => none
        | some (c, f) =>
          -- A line further to the left belongs to another block.
          if !inFlow && decide ((c.column : Int) < indent) then some (c, f)
          else plainWords inFlow indent n c f
      else some (c, f)

/-- Read a plain scalar. The flag tells whether it ended on a new
line. -/
def plainScalar (inFlow : Bool) (indent : Int) (c : Cursor) :
    Option (List Char × Bool × Cursor) :=
  (plainWords inFlow indent (c.rest.length + 1) c .start).map fun (c, f) =>
    (f.rev.reverse, f.onNewLine, c)

/-- The character that a one-letter escape stands for. -/
def escapeValue? : Char → Option Char
  | '0' => some '\x00'
  | 'a' => some '\x07'
  | 'b' => some '\x08'
  | 't' => some '\t'
  | '\t' => some '\t'
  | 'n' => some '\n'
  | 'v' => some '\x0b'
  | 'f' => some '\x0c'
  | 'r' => some '\r'
  | 'e' => some '\x1b'
  | ' ' => some ' '
  | '"' => some '"'
  | '\'' => some '\''
  | '\\' => some '\\'
  | 'N' => some '\u0085'
  | '_' => some '\u00a0'
  | 'L' => some '\u2028'
  | 'P' => some '\u2029'
  | _ => none

/-- How many hexadecimal digits follow the letter of an escape. -/
def escapeDigits? : Char → Option Nat
  | 'x' => some 2
  | 'u' => some 4
  | 'U' => some 8
  | _ => none

/-- The character with the number that digits give. -/
def escapedChar? (digits : List Char) : Option Char := do
  let value ← digits.foldlM (fun n c => (Hex.value? c).map fun d => n * 16 + d) 0
  if value.isValidChar then some (Char.ofNat value) else none

/-- Where a stretch of a quoted scalar ends. -/
inductive QuotedStop
  | atQuote
  | atGap
  | afterEscapedBreak
  deriving DecidableEq

/-- Read a quoted scalar up to the next gap, its closing quote, or a
line end that is escaped. -/
def quotedWord (single : Bool) :
    Nat → Cursor → List Char → Option (Cursor × List Char × QuotedStop)
  | 0, _, _ => none
  | n + 1, c, rev =>
    if isGap c.head then some (c, rev, .atGap)
    else if single then
      if c.head == '\'' then
        if c.peek 1 == '\'' then quotedWord single n (c.skip 2) ('\'' :: rev)
        else some (c, rev, .atQuote)
      else quotedWord single n c.next (c.head :: rev)
    else if c.head == '"' then some (c, rev, .atQuote)
    else if c.head == '\\' then
      if isBreak (c.peek 1) then some (c.next.skipBreak, rev, .afterEscapedBreak)
      else
        match escapeValue? (c.peek 1), escapeDigits? (c.peek 1) with
        | some x, _ => quotedWord single n (c.skip 2) (x :: rev)
        | none, some count =>
          let digits := ((c.skip 2).rest).take count
          if digits.length < count then none
          else
            match escapedChar? digits with
            | some x => quotedWord single n (c.skip (2 + count)) (x :: rev)
            | none => none
        | none, none => none
    else quotedWord single n c.next (c.head :: rev)

/-- Read a quoted scalar, behind its opening quote, to behind its
closing one. -/
def quotedWords (single : Bool) : Nat → Cursor → Folding → Option (List Char × Cursor)
  | 0, _, _ => none
  | n + 1, c, f =>
    if c.atAnyDocumentMark || c.atEnd then none
    else
      match quotedWord single (c.rest.length + 1) c f.rev with
      | none => none
      | some (c, rev, stop) =>
        let quote := if single then '\'' else '"'
        if c.head == quote then some (rev.reverse, c.next)
        else
          -- Behind an escaped line end, blanks are left out.
          let f : Folding := { Folding.start with
            rev, onNewLine := stop == .afterEscapedBreak }
          match skipGaps (-1) c.rest.length c f with
          | none => none
          | some (c, f) => quotedWords single n c f.join

/-- Read a quoted scalar, from its opening quote on. -/
def quotedScalar (c : Cursor) : Option (List Char × Cursor) :=
  quotedWords (c.head == '\'') (c.rest.length + 1) c.next .start

/-- What becomes of the line ends behind a block scalar. -/
inductive Chomping
  | clip
  | keep
  | strip
  deriving DecidableEq

/-- The chomping that a sign stands for. -/
def chomping? (c : Char) : Option Chomping :=
  if c == '+' then some .keep else if c == '-' then some .strip else none

/-- Read the digit that gives the indentation of a block scalar; zero
stands for none. The digit zero is refused. -/
def indentDigit (c : Cursor) : Option (Nat × Cursor) :=
  if c.head.isDigit then
    if c.head == '0' then none else some (c.head.toNat - 48, c.next)
  else some (0, c)

/-- Read the signs behind the mark of a block scalar, in either
order. -/
def blockHeader (c : Cursor) : Option (Chomping × Nat × Cursor) :=
  match chomping? c.head with
  | some chomping => (indentDigit c.next).map fun (digit, c) => (chomping, digit, c)
  | none =>
    (indentDigit c).map fun (digit, c) =>
      if digit = 0 then (.clip, digit, c)
      else
        match chomping? c.head with
        | some chomping => (chomping, digit, c.next)
        | none => (.clip, digit, c)

/-- Read empty lines in front of a line of a block scalar. While its
indentation is not known, all blanks are read and the deepest column
is kept. The result has the number of lines. A tab in front of the
text is refused. -/
def blockGaps (indent : Nat) :
    Nat → Cursor → (deepest breaks : Nat) → Option (Cursor × Nat × Nat)
  | 0, c, deepest, breaks => some (c, deepest, breaks)
  | n + 1, c, deepest, breaks =>
    let blanks := (c.ahead (· == ' ')).length
    -- Blanks past the indentation belong to the text.
    let c := c.skip (if indent = 0 then blanks else min blanks (indent - c.column))
    let deepest := max deepest c.column
    if (indent == 0 || decide (c.column < indent)) && c.head == '\t' then none
    else if isBreak c.head then blockGaps indent n c.skipBreak deepest (breaks + 1)
    else some (c, deepest, breaks)

/-- Read the lines of a block scalar. `rev` is what was read, last
first, `lineEnd` tells whether a line end is due behind it, and
`breaks` how many empty lines there were after that. -/
def blockLines (literal : Bool) (indent : Nat) :
    Nat → Cursor → (rev : List Char) → (lineEnd : Bool) → (breaks : Nat) →
    (blankLine : Bool) → Option (Cursor × List Char × Bool × Nat)
  | 0, c, rev, lineEnd, breaks, _ => some (c, rev, lineEnd, breaks)
  | n + 1, c, rev, lineEnd, breaks, blankLine =>
    if c.column == indent && !c.atEnd then
      -- Lines that begin with a blank are not folded, nor are those around them.
      let startsBlank := isBlank c.head
      let rev :=
        if !literal && lineEnd && !blankLine && !startsBlank then
          if breaks == 0 then ' ' :: rev else rev
        else if lineEnd then '\n' :: rev
        else rev
      let rev := List.replicate breaks '\n' ++ rev
      let line := c.ahead fun x => !isBreakOrEnd x
      let c := c.skip line.length
      let rev := line.reverse ++ rev
      -- The end of the text is no line end.
      if c.atEnd then some (c, rev, false, 0)
      else
        match blockGaps indent (c.rest.length + 1) c.skipBreak 0 0 with
        | none => none
        | some (c, _, breaks) => blockLines literal indent n c rev true breaks startsBlank
    else some (c, rev, lineEnd, breaks)

/-- Read a block scalar, from its mark on, inside a block at column
`outer`. -/
def blockScalar (outer : Int) (c : Cursor) : Option (List Char × Cursor) := do
  let literal := c.head == '|'
  let (chomping, digit, c) ← blockHeader c.next
  let c := (c.skipWhile isBlank).skipComment
  if !isBreakOrEnd c.head then failure
  let c := c.skipBreak
  let known := if digit = 0 then 0 else (max outer 0).toNat + digit
  let (c, deepest, breaks) ← blockGaps known (c.rest.length + 1) c 0 0
  let indent := if known = 0 then max deepest (max (outer + 1) 1).toNat else known
  let (c, rev, lineEnd, breaks) ←
    blockLines literal indent (c.rest.length + 1) c [] false breaks false
  let rev := if lineEnd && chomping != .strip then '\n' :: rev else rev
  let rev := if chomping == .keep then List.replicate breaks '\n' ++ rev else rev
  return (rev.reverse, c)

end MapBench.Yaml
