import MapBench.Text.Hex
import MapBench.Yaml.Cursor

/-!
# `MapBench.Yaml.Tag`: tags, anchors and directives

A tag is written in full between angle brackets, or as a suffix
behind a handle of exclamation marks. Anchors and aliases are words.
A directive takes up a line of its own before a document.
-/

set_option autoImplicit false

namespace MapBench.Yaml

/-- A tag: a handle, and what follows it. -/
structure Tag where
  handle : String
  suffix : String
  deriving Repr, DecidableEq

/-- May the character stand in a tag, apart from escapes? -/
def isTagChar (c : Char) : Bool :=
  isWordChar c || ";/?:@&=+$,.!~*'()[]".toList.contains c

/-- Read one escaped byte. -/
def escapedByte (c : Cursor) : Option (Nat × Cursor) :=
  if c.head == '%' then
    match Hex.value? (c.peek 1), Hex.value? (c.peek 2) with
    | some high, some low => some (high * 16 + low, c.skip 3)
    | _, _ => none
  else none

/-- Read the bytes that follow the first one of an escaped
character, putting them behind it as digits. -/
def moreEscapedBytes : Nat → Cursor → Nat → Option (Nat × Cursor)
  | 0, c, value => some (value, c)
  | n + 1, c, value => do
    let (byte, c) ← escapedByte c
    if byte < 0x80 ∨ 0xBF < byte then failure
    moreEscapedBytes n c (value * 256 + byte)

/-- Read an escaped character. It is the character whose number has
these bytes. -/
def escapedTagChar (c : Cursor) : Option (Char × Cursor) := do
  let (byte, c) ← escapedByte c
  let more ←
    if byte < 0x80 then some 0
    else if 0xC0 ≤ byte ∧ byte < 0xE0 then some 1
    else if 0xE0 ≤ byte ∧ byte < 0xF0 then some 2
    else if 0xF0 ≤ byte ∧ byte < 0xF8 then some 3
    else none
  let (value, c) ← moreEscapedBytes more c byte
  if value.isValidChar then return (Char.ofNat value, c) else failure

/-- Read the characters of a tag, behind those of `rev`. -/
def tagChars : Nat → Cursor → (rev : List Char) → Option (List Char × Cursor)
  | 0, c, rev => some (rev.reverse, c)
  | n + 1, c, rev =>
    if c.head == '%' then
      match escapedTagChar c with
      | some (x, c) => tagChars n c (x :: rev)
      | none => none
    else if isTagChar c.head then tagChars n c.next (c.head :: rev)
    else some (rev.reverse, c)

/-- Read the handle of a tag: an exclamation mark, and perhaps a word
with another one behind it. -/
def tagHandle (c : Cursor) : Option (List Char × Cursor) :=
  if c.head == '!' then
    let word := c.next.ahead isWordChar
    let c := c.next.skip word.length
    if c.head == '!' then some ('!' :: word ++ ['!'], c.next) else some ('!' :: word, c)
  else none

/-- Read a tag without its closing gap. -/
def openTag (c : Cursor) : Option (Tag × Cursor) := do
  if c.peek 1 == '<' then
    let (suffix, c) ← tagChars (c.rest.length + 1) (c.skip 2) []
    if suffix.isEmpty || c.head != '>' then failure
    return (⟨"", String.ofList suffix⟩, c.next)
  let (handle, c) ← tagHandle c
  if 2 ≤ handle.length && handle.getLast? == some '!' then
    let (suffix, c) ← tagChars (c.rest.length + 1) c []
    if suffix.isEmpty then failure
    return (⟨String.ofList handle, String.ofList suffix⟩, c)
  -- What looked like a handle was the beginning of a suffix behind a single mark.
  let (suffix, c) ← tagChars (c.rest.length + 1) c (handle.drop 1).reverse
  -- A mark by itself is a tag of its own.
  if suffix.isEmpty then return (⟨"", "!"⟩, c)
  return (⟨"!", String.ofList suffix⟩, c)

/-- Read a tag. A gap has to follow. -/
def tag (c : Cursor) : Option (Tag × Cursor) := do
  let (tag, c) ← openTag c
  if isGap c.head then return (tag, c) else failure

/-- Read the name of an anchor or an alias, behind its mark. -/
def anchorName (c : Cursor) : Option (String × Cursor) :=
  let name := c.ahead isWordChar
  let c := c.skip name.length
  if name.isEmpty then none
  else if isGap c.head || "?:,]\x7d%@\x60".toList.contains c.head then
    some (String.ofList name, c)
  else none

/-- Read a number of a version, of at most nine digits. -/
def versionNumber (c : Cursor) : Option Cursor :=
  let digits := c.ahead Char.isDigit
  if digits.isEmpty || 9 < digits.length then none else some (c.skip digits.length)

/-- Read a directive that has a meaning, behind its name. The result
is what follows it. -/
def directiveValue (name : List Char) (c : Cursor) : Option Cursor := do
  let start := c.skipWhile isBlank
  if name == "YAML".toList then
    let c ← versionNumber start
    if c.head != '.' then failure
    versionNumber c.next
  else if name == "TAG".toList then
    let (handle, c) ← tagHandle start
    if handle != ['!'] && (handle.length < 2 || handle.getLast? != some '!') then failure
    let c := c.skipWhile isBlank
    let (suffix, c) ← tagChars (c.rest.length + 1) c []
    if suffix.isEmpty || !isGap c.head then failure
    return c
  else return c.skipLine

/-- Read the line of a directive, from its mark on. -/
def directive (c : Cursor) : Option Cursor := do
  let name := c.next.ahead isWordChar
  let c := c.next.skip name.length
  if name.isEmpty || !isGap c.head then failure
  let c ← directiveValue name c
  let c := (c.skipWhile isBlank).skipComment
  if isBreakOrEnd c.head then return c.skipBreak else failure

end MapBench.Yaml
